import CommitRules.Check.Session
import CommitRules.Proofs.Told
import CommitRules.Report.Render
import Mathlib.Data.List.Induction

/-!
# CommitRules.Proofs.Reports

Checks one after the other that report to one ledger. Each has a change of its own, or one it shares
with others; some return and some break off.

* `told_run`: what a check tells is what it has completed.
* `ledger_after`: the ledger after any series, part by part, from what the checks have completed.
* `ledger_agrees_with_results`: the ledger, the verdict and the report as JSON agree with the
  results of all rules that have been completed.
-/

namespace CommitRules

open CommitRules.Files

/-- One of several checks that report to the same ledger. -/
structure Turn where
  /-- What the check has of the change before it begins. -/
  cache : DiffCache
  fetch : String → Run String
  commit : String
  place : Place
  rules : List Rule
  files : List String
  /-- Fetching the change has no access to the ledger. -/
  quiet : toldIn (fetch commit).trace = []

/-- The results of the rules that are applied before one fails. -/
def resultsBefore (place : Place) (diff : List Char) (files : List String) :
    List Rule → List RuleResult
  | [] => []
  | rule :: rules =>
    match (applyRule place diff files rule).outcome with
    | .ok result => result :: resultsBefore place diff files rules
    | .error _ => []

namespace Turn

/-- The check, whatever stands in the ledger. -/
def run (turn : Turn) : Run (List RuleResult) :=
  Session.check ⟨turn.cache, .empty⟩ turn.fetch turn.commit turn.place turn.rules turn.files

/-- The ledger after the check. -/
def tell (ledger : Ledger) (turn : Turn) : Ledger :=
  (Session.afterCheck ⟨turn.cache, ledger⟩ turn.fetch turn.commit turn.place turn.rules
    turn.files).ledger

/-- The results of the rules the check has completed, whether it returns them or breaks off. -/
def completed (turn : Turn) : List RuleResult :=
  match (turn.cache.get turn.fetch turn.commit).outcome with
  | .ok diff => resultsBefore turn.place diff.toList turn.files turn.rules
  | .error _ => []

end Turn

/-- The ledger after a series of checks. -/
def ledgerAfter (turns : List Turn) : Ledger := turns.foldl Turn.tell .empty

/-- A violation as the ledger has it. -/
def Flagged.violation (flagged : Flagged) : Violation :=
  ⟨flagged.file, flagged.rule, flagged.level⟩

/-! ## What is told about a result -/

namespace RuleResult

/-- A result as applying a rule makes it: whatever is flagged is one of the files the rule concerns
and is flagged with this rule and its level. -/
def IsSound (result : RuleResult) : Prop :=
  ∀ flagged ∈ result.flagged, flagged.file ∈ result.withMatches ∧ flagged.rule = result.rule ∧
    flagged.level = result.rule.level

end RuleResult

variable (place : Place) (diff : List Char) (files : List String)

theorem isSound_resultOf (rule : Rule) : (rule.resultOf place diff files).IsSound := by
  intro flagged hflagged
  simp only [Rule.resultOf, Rule.flaggedOf] at hflagged
  split at hflagged
  · obtain ⟨file, hfile, rfl⟩ := List.mem_map.1 hflagged
    exact ⟨hfile, rfl, rfl⟩
  · cases hflagged

theorem labels_toldOf (rule : Rule) :
    (rule.toldOf place diff files).filterMap Event.label? = [rule.label] := by
  have hfile : ∀ file, (rule.toldOfFile diff file).filterMap Event.label? = [] := by
    intro file
    unfold Rule.toldOfFile
    split <;> rfl
  unfold Rule.toldOf
  rw [List.filterMap_append, List.filterMap_flatMap]
  simp [hfile, Event.label?]

theorem matched_toldOf (rule : Rule) :
    (rule.toldOf place diff files).filterMap Event.matched? = rule.concernedOf place files := by
  have hfile : ∀ file, (rule.toldOfFile diff file).filterMap Event.matched? = [file] := by
    intro file
    unfold Rule.toldOfFile
    split <;> rfl
  unfold Rule.toldOf
  rw [List.filterMap_append, List.filterMap_flatMap]
  simp [hfile, Event.matched?, List.flatMap_singleton']

/-- The rules applied before one fails, and what they come to. -/
theorem applyRules_completed (rules : List Rule) :
    ∃ applied : List Rule,
      resultsBefore place diff files rules = applied.map (·.resultOf place diff files) ∧
        (applyRules place diff files rules).trace =
          applied.flatMap (·.toldOf place diff files) := by
  induction rules with
  | nil => exact ⟨[], rfl, rfl⟩
  | cons rule rules ih =>
    obtain ⟨applied, hresults, htrace⟩ := ih
    unfold applyRules at htrace ⊢
    rw [Run.each_cons]
    rcases applyRule_cases place diff files rule with hrule | ⟨failure, hrule⟩
    · refine ⟨rule :: applied, by simp [resultsBefore, hrule, hresults], ?_⟩
      rw [hrule, Run.bind_of_ok rfl, List.flatMap_cons, ← htrace]
      -- whatever comes of the other rules, nothing is told once they are through
      cases ho : (Run.each (applyRule place diff files) rules).outcome with
      | ok results => rw [Run.bind_of_ok ho]; simp [pure, Run.done]
      | error failure => rw [Run.bind_of_error ho]
    · refine ⟨[], by simp [resultsBefore, hrule], ?_⟩
      rw [hrule, Run.bind_of_error rfl]
      rfl

theorem resultsBefore_of_ok {rules : List Rule} {results : List RuleResult}
    (h : (applyRules place diff files rules).outcome = .ok results) :
    resultsBefore place diff files rules = results := by
  induction rules generalizing results with
  | nil => cases h; rfl
  | cons rule rules ih =>
    unfold applyRules at h ih
    rw [Run.each_cons] at h
    obtain ⟨result, hrule, h⟩ := Run.bind_ok h
    obtain ⟨rest, hrest, h⟩ := Run.bind_ok h
    cases h
    simp only [resultsBefore, hrule, ih hrest]

/-! ## Checks -/

namespace Turn

variable (turn : Turn)

theorem toldIn_get : toldIn (turn.cache.get turn.fetch turn.commit).trace = [] := by
  unfold DiffCache.get
  cases turn.cache.text with
  | some text => rfl
  | none => exact toldIn_bind turn.quiet fun _ => rfl

/-- What a check tells is what the rules it has completed tell. -/
theorem told_run :
    ∃ (diff : List Char) (applied : List Rule),
      turn.completed = applied.map (·.resultOf turn.place diff turn.files) ∧
        toldIn turn.run.trace = applied.flatMap (·.toldOf turn.place diff turn.files) := by
  unfold completed run
  cases hget : (turn.cache.get turn.fetch turn.commit).outcome with
  | error failure =>
    refine ⟨[], [], rfl, ?_⟩
    rw [check_of_unfetched hget]
    exact toldIn_get turn
  | ok diff =>
    obtain ⟨applied, hresults, htrace⟩ :=
      applyRules_completed turn.place diff.toList turn.files turn.rules
    refine ⟨diff.toList, applied, hresults, ?_⟩
    rw [check_of_fetched hget, toldIn_append, toldIn_get, toldIn_applyRules, htrace]
    rfl

theorem completed_of_ok {results : List RuleResult} (h : turn.run.outcome = .ok results) :
    turn.completed = results := by
  obtain ⟨diff, hget, happlied⟩ := Run.bind_ok h
  simp only [completed, hget]
  exact resultsBefore_of_ok _ _ _ happlied

theorem isSound_completed : ∀ result ∈ turn.completed, result.IsSound := by
  obtain ⟨diff, applied, hcompleted, _⟩ := told_run turn
  intro result hresult
  rw [hcompleted] at hresult
  obtain ⟨rule, _, rfl⟩ := List.mem_map.1 hresult
  exact isSound_resultOf _ _ _ rule

theorem tell_eq (ledger : Ledger) :
    turn.tell ledger =
      ⟨addAll ledger.rules (turn.completed.map (·.rule.label)),
        addAll ledger.matched (turn.completed.flatMap (·.withMatches)),
        ledger.violations ++ turn.completed.flatMap (·.flagged.map Flagged.violation)⟩ := by
  obtain ⟨diff, applied, hcompleted, htold⟩ := told_run turn
  have htell : turn.tell ledger = ledger.noteAll (toldIn turn.run.trace) :=
    (Ledger.noteAll_toldIn ..).symm
  rw [htell, htold, hcompleted, Ledger.noteAll_eq]
  simp only [List.filterMap_flatMap, labels_toldOf, matched_toldOf, violations_toldOf,
    List.map_map, List.flatMap_map]
  congr 2
  exact (List.map_eq_flatMap ..).symm

end Turn

/-! ## The ledger -/

theorem addAll_append (items first second : List String) :
    addAll items (first ++ second) = addAll (addAll items first) second := List.foldl_append ..

/-- Adding once, one after the other, keeps the first of every item. -/
theorem addAll_nil (items : List String) : addAll [] items = items.eraseDups := by
  induction items using List.reverseRecOn with
  | nil => rfl
  | append_singleton items item ih =>
    rw [addAll_append, ih, List.eraseDups_append, addAll, List.foldl_cons, List.foldl_nil, addOnce]
    by_cases hmem : item ∈ items
    · simp [hmem, List.removeAll]
    · simp [hmem, List.removeAll, List.eraseDups_cons]

theorem nodup_addAll {items : List String} (h : items.Nodup) (more : List String) :
    (addAll items more).Nodup := by
  induction more generalizing items with
  | nil => exact h
  | cons item more ih => exact ih (nodup_addOnce h item)

theorem ledger_after (turns : List Turn) :
    ledgerAfter turns =
      ⟨((turns.flatMap Turn.completed).map (·.rule.label)).eraseDups,
        ((turns.flatMap Turn.completed).flatMap (·.withMatches)).eraseDups,
        (turns.flatMap Turn.completed).flatMap (·.flagged.map Flagged.violation)⟩ := by
  simp only [← addAll_nil]
  induction turns using List.reverseRecOn with
  | nil => rfl
  | append_singleton turns turn ih =>
    have hlast : ledgerAfter (turns ++ [turn]) = turn.tell (ledgerAfter turns) :=
      List.foldl_append ..
    rw [hlast, Turn.tell_eq, ih]
    simp [addAll_append]

section Mentions

variable {turns : List Turn} {violation : Violation}

theorem mem_violations :
    violation ∈ (ledgerAfter turns).violations ↔
      ∃ result ∈ turns.flatMap Turn.completed, ∃ flagged ∈ result.flagged,
        flagged.violation = violation := by
  rw [ledger_after]
  simp only [List.mem_flatMap, List.mem_map]

theorem mentioned (h : violation ∈ (ledgerAfter turns).violations) :
    violation.file ∈ (ledgerAfter turns).matched ∧
      violation.rule.label ∈ (ledgerAfter turns).rules := by
  obtain ⟨result, hresult, flagged, hflagged, rfl⟩ := mem_violations.1 h
  obtain ⟨turn, _, hturn⟩ := List.mem_flatMap.1 hresult
  obtain ⟨hfile, hrule, _⟩ := turn.isSound_completed result hturn flagged hflagged
  rw [ledger_after]
  refine ⟨List.mem_eraseDups.2 (List.mem_flatMap.2 ⟨result, hresult, hfile⟩), ?_⟩
  refine List.mem_eraseDups.2 (List.mem_map.2 ⟨result, hresult, ?_⟩)
  rw [Flagged.violation, hrule]

/-- A report has errors if a completed rule of level error has flagged a file. -/
theorem hasErrors_after :
    (ledgerAfter turns).summary.hasErrors = true ↔
      ∃ result ∈ turns.flatMap Turn.completed,
        result.rule.level = .error ∧ result.flagged ≠ [] := by
  rw [hasErrors_iff]
  constructor
  · rintro ⟨violation, hviolation, hlevel⟩
    obtain ⟨result, hresult, flagged, hflagged, rfl⟩ := mem_violations.1 hviolation
    obtain ⟨turn, _, hturn⟩ := List.mem_flatMap.1 hresult
    obtain ⟨_, _, hsame⟩ := turn.isSound_completed result hturn flagged hflagged
    exact ⟨result, hresult, hsame ▸ hlevel, List.ne_nil_of_mem hflagged⟩
  · rintro ⟨result, hresult, hlevel, hne⟩
    obtain ⟨flagged, hflagged⟩ := List.exists_mem_of_ne_nil _ hne
    obtain ⟨turn, _, hturn⟩ := List.mem_flatMap.1 hresult
    obtain ⟨_, _, hsame⟩ := turn.isSound_completed result hturn flagged hflagged
    exact ⟨_, mem_violations.2 ⟨result, hresult, flagged, hflagged, rfl⟩, hsame.trans hlevel⟩

end Mentions

/-! ## The report as JSON -/

theorem addToGroups_perm (violation : Violation) (groups : List FileGroup) :
    ((addToGroups violation groups).flatMap (·.violations)).Perm
      (groups.flatMap (·.violations) ++ [violation]) := by
  induction groups with
  | nil => exact .refl _
  | cons group groups ih =>
    rw [addToGroups]
    split
    · simp only [List.flatMap_cons, List.append_assoc]
      exact .append_left _ List.perm_append_comm
    · simp only [List.flatMap_cons, List.append_assoc]
      exact .append_left _ ih

/-- Grouping neither loses nor adds violations. -/
theorem groupByFile_perm (violations : List Violation) :
    ((groupByFile violations).flatMap (·.violations)).Perm violations := by
  induction violations using List.reverseRecOn with
  | nil => exact .refl _
  | append_singleton violations violation ih =>
    rw [groupByFile_append]
    exact (addToGroups_perm violation _).trans (.append_right _ ih)

namespace Value

/-- What stands under a key of a document. -/
def under (value : Value) (key : String) : Value :=
  match value with
  | .table entries => Table.get entries key
  | _ => .null

/-- The items of a document that is a list. -/
def items : Value → List Value
  | .list items => items
  | _ => []

/-- Whether a document is a text. -/
def isText (value : Value) (text : String) : Bool :=
  match value with
  | .text other => other == text
  | _ => false

end Value

/-- The report of a ledger as a document. -/
def Ledger.toValue (ledger : Ledger) (commit : String) (source : Option String) (now : Moment)
    (root : Option Path) : Value :=
  ledger.summary.toValue ⟨ledger.rules, ledger.matched, commit, source, now, root⟩

section Payload

variable (ledger : Ledger) (commit : String) (source : Option String) (now : Moment)
  (root : Option Path)

theorem items_violations :
    ((ledger.toValue commit source now root).under "violations").items.Perm
      (ledger.violations.map (violationValue root)) :=
  (groupByFile_perm ledger.violations).map _

theorem countP_level (level : Level) (violations : List Violation) :
    (violations.map (violationValue root)).countP
        (fun entry => (entry.under "level").isText level.name) = countLevel level violations := by
  have hname : ∀ other : Level, (other.name == level.name) = decide (other = level) := by
    intro other
    cases other <;> cases level <;> decide
  rw [List.countP_map, countLevel]
  congr 1
  funext violation
  exact hname violation.level

/-- The numbers in the summary are those of the violations in the list. -/
theorem count_under (level : Level) :
    ((ledger.toValue commit source now root).under "violations").items.countP
        (fun entry => (entry.under "level").isText level.name) =
      countLevel level ledger.violations := by
  rw [(items_violations ledger commit source now root).countP_eq, countP_level]

end Payload

/-- After any checks that report to one ledger, whether they have returned or broken off, it holds
the labels of the completed rules and the files they concern, each once in the order of the first
mention, and all that they have flagged, in order. So every violation is one of a file and a rule
that are mentioned, the report has errors if a completed rule of level error has flagged a file, and
the report as JSON lists all the violations with files and rules that it mentions, and counts them
right. -/
theorem ledger_agrees_with_results (turns : List Turn) :
    let ledger := ledgerAfter turns
    let results := turns.flatMap Turn.completed
    (∀ turn ∈ turns, ∀ returned, turn.run.outcome = .ok returned → turn.completed = returned) ∧
    ledger.rules.Nodup ∧ ledger.rules = (results.map (·.rule.label)).eraseDups ∧
    ledger.matched.Nodup ∧ ledger.matched = (results.flatMap (·.withMatches)).eraseDups ∧
    ledger.violations = results.flatMap (·.flagged.map Flagged.violation) ∧
    (∀ violation ∈ ledger.violations,
      violation.file ∈ ledger.matched ∧ violation.rule.label ∈ ledger.rules) ∧
    (ledger.summary.hasErrors = true ↔
      ∃ result ∈ results, result.rule.level = .error ∧ result.flagged ≠ []) ∧
    ∀ commit source now root,
      let report := ledger.toValue commit source now root
      let entries := (report.under "violations").items
      let count (level : Level) : Value :=
        .int (entries.countP fun entry => (entry.under "level").isText level.name)
      entries.Perm (ledger.violations.map (violationValue root)) ∧
      (∀ entry ∈ entries, entry.under "file" ∈ (report.under "matched_files").items ∧
        entry.under "rule" ∈ (report.under "rules").items) ∧
      (report.under "summary").under "errors" = count .error ∧
      (report.under "summary").under "warnings" = count .warning ∧
      (report.under "summary").under "info" = count .info := by
  intro ledger results
  have hledger : ledger = _ := ledger_after turns
  have hnodup : ∀ items : List String, items.eraseDups.Nodup := fun items =>
    addAll_nil items ▸ nodup_addAll .nil items
  refine ⟨fun turn _ returned => turn.completed_of_ok, by rw [hledger]; exact hnodup _,
    by rw [hledger], by rw [hledger]; exact hnodup _, by rw [hledger], by rw [hledger],
    fun violation => mentioned, hasErrors_after, ?_⟩
  intro commit source now root report entries count
  have hentries : entries.Perm (ledger.violations.map (violationValue root)) :=
    items_violations ledger commit source now root
  have hcount : ∀ level, count level = .int (countLevel level ledger.violations) := fun level =>
    congrArg (fun n : Nat => Value.int n) (count_under ledger commit source now root level)
  refine ⟨hentries, ?_, (hcount .error).symm, (hcount .warning).symm, (hcount .info).symm⟩
  intro entry hentry
  obtain ⟨violation, hviolation, rfl⟩ := List.mem_map.1 (hentries.mem_iff.1 hentry)
  obtain ⟨hfile, hrule⟩ := mentioned hviolation
  exact ⟨List.mem_map.2 ⟨_, hfile, rfl⟩, List.mem_map.2 ⟨_, hrule, rfl⟩⟩

end CommitRules
