import CommitRules.Proofs.Heads
import CommitRules.Proofs.Presentation
import Mathlib.Data.List.Forall2

/-!
# CommitRules.Proofs.LongerHeads

Two checks of one commit, the second with rules that count more lines. What is looked for as it
stands is found in every text that begins with one it is found in, and fewer lines are a beginning
of more lines, so the second check flags whatever the first one does.

* `Rule.Extends.flaggedOf_sublist`: what a rule flags is flagged with a longer head.
* `Run.Widens.each`: two runs for the items of two lists, one beside the other.
* `longer_heads_keep_violations`: what longer heads do to what a rule comes to, and to a check.
-/

namespace CommitRules

open CommitRules.Text CommitRules.Files

/-! ## Texts that begin alike -/

theorem occursIn_iff {needle text : List Char} :
    occursIn needle text = true ↔ needle <:+: text := by
  induction text with
  | nil => rw [occursIn, List.isEmpty_iff, List.infix_nil]
  | cons c rest ih =>
    rw [occursIn, Bool.or_eq_true, List.isPrefixOf_iff_prefix, ih, List.infix_cons_iff]

/-- A find that is no regular expression is a list of texts, one of which is to stand in the text
that is searched. -/
theorem Find.isIn_needles {find : Find} (hfind : ∀ pattern, find ≠ .regex pattern) :
    ∃ needles : List String, ∀ text, find.isIn text = true ↔
      text ≠ [] ∧ ∃ needle ∈ needles, needle.toList <:+: text := by
  cases find with
  | literal needle =>
    refine ⟨[needle], fun text => ?_⟩
    simp [isIn, occursIn_iff]
  | anyOf needles =>
    refine ⟨needles, fun text => ?_⟩
    simp [isIn, occursIn_iff]
  | regex pattern => exact absurd rfl (hfind pattern)

theorem Find.isIn_of_prefix {find : Find} (hfind : ∀ pattern, find ≠ .regex pattern)
    {text longer : List Char} (hbegins : text <+: longer) (h : find.isIn text = true) :
    find.isIn longer = true := by
  obtain ⟨needles, hneedles⟩ := find.isIn_needles hfind
  obtain ⟨hne, needle, hneedle, hin⟩ := (hneedles text).1 h
  exact (hneedles longer).2 ⟨hbegins.ne_nil hne, needle, hneedle, hin.trans hbegins.isInfix⟩

theorem Files.Tree.headOf?_prefix {tree : Tree} {path : Path} {count more : Nat}
    (hcount : count ≤ more) {text : List Char} (h : tree.headOf? path count = some text) :
    ∃ longer, tree.headOf? path more = some longer ∧ text <+: longer := by
  unfold Tree.headOf? at h ⊢
  split at h
  · next bytes hlook =>
    cases h
    exact ⟨_, rfl, firstLines_prefix hcount _⟩
  · cases h

/-! ## Rules with longer heads -/

/-- A rule and one that differs from it at most in its head, which is no shorter, where nothing but
texts is looked for. -/
inductive Rule.Extends : Rule → Rule → Prop where
  | same (rule : Rule) : Extends rule rule
  | longer {rule : Rule} {count : Nat} (hcount : rule.head ≤ count)
      (hlimit : (count : Int) ≤ headLimit) (hfind : ∀ pattern, rule.find ≠ some (.regex pattern)) :
      Extends rule { rule with head := count }

section Rules

variable {rule longer : Rule} {place : Place} {diff : List Char} {files : List String}

namespace Rule.Extends

theorem files_eq (h : rule.Extends longer) : longer.files = rule.files := by cases h <;> rfl

theorem search_eq (h : rule.Extends longer) : longer.search = rule.search := by cases h <;> rfl

theorem label_eq (h : rule.Extends longer) : longer.label = rule.label := by cases h <;> rfl

theorem level_eq (h : rule.Extends longer) : longer.level = rule.level := by cases h <;> rfl

theorem head_le (h : rule.Extends longer) : rule.head ≤ longer.head := by
  cases h with
  | same => exact Nat.le_refl _
  | longer hcount => exact hcount

theorem covered_eq (h : rule.Extends longer) :
    longer.covered place files = rule.covered place files := by cases h <;> rfl

theorem concerns (h : rule.Extends longer) {tree : Tree} {file : String}
    (hfile : rule.concerns tree file = true) : longer.concerns tree file = true := by
  cases h with
  | same => exact hfile
  | longer hcount _ hfind =>
    refine concerns_iff.2 fun find hrule => ?_
    obtain ⟨text, htext, hin⟩ := concerns_iff.1 hfile find hrule
    obtain ⟨more, hmore, hbegins⟩ := Tree.headOf?_prefix hcount htext
    have htexts : ∀ pattern, find ≠ .regex pattern := fun pattern he => hfind pattern (he ▸ hrule)
    exact ⟨more, hmore, find.isIn_of_prefix htexts hbegins hin⟩

theorem concernedOf_sublist (h : rule.Extends longer) :
    (rule.concernedOf place files).Sublist (longer.concernedOf place files) := by
  unfold concernedOf
  rw [h.covered_eq]
  exact List.monotone_filter_right _ fun file => h.concerns

/-- The same is told of what two rules flag if it is told alike of each file. -/
theorem flaggedOf_sublist (h : rule.Extends longer) {α : Type} {told told' : Flagged → α}
    (halike : ∀ file, told ⟨file, rule, rule.level⟩ = told' ⟨file, longer, longer.level⟩) :
    ((rule.flaggedOf place diff files).map told).Sublist
      ((longer.flaggedOf place diff files).map told') := by
  unfold flaggedOf
  rw [h.search_eq]
  split
  · rw [List.map_map, List.map_map]
    have hmap : told ∘ (fun file => (⟨file, rule, rule.level⟩ : Flagged)) =
        told' ∘ fun file => ⟨file, longer, longer.level⟩ := funext halike
    rw [hmap]
    exact h.concernedOf_sublist.map _
  · exact List.Sublist.refl _

end Rule.Extends

/-! ## What cannot be read -/

theorem readHead_error {tree : Tree} {file : String} {count more : Nat} {failure : Failure}
    (hcount : (count : Int) ≤ headLimit) (h : readHead tree file count = .error failure) :
    readHead tree file more = .error failure := by
  cases hread : tree.read (.ofText file) with
  | ok bytes =>
    rw [readHead_of_read hread, if_neg (Int.not_lt.2 hcount)] at h
    cases h
  | error other =>
    -- the lines are counted after the file has been opened
    unfold readHead at h ⊢
    cases hthere : tree.exists? (.ofText file) with
    | error absent => simpa [hthere, hread, bind, Except.bind] using h
    | ok answer =>
      cases answer <;> simpa [hthere, hread, bind, Except.bind] using h

theorem headHolds_error {tree : Tree} {find : Find} {file : String} {count more : Nat}
    {failure : Failure} (hcount : (count : Int) ≤ headLimit)
    (h : headHolds tree find count file = .error failure) :
    headHolds tree find more file = .error failure := by
  unfold headHolds at h ⊢
  cases hread : readHead tree file count with
  | error other =>
    rw [hread] at h
    rw [readHead_error hcount hread]
    exact h
  | ok text =>
    rw [hread] at h
    cases h

theorem Rule.Extends.concerned_error_iff (h : rule.Extends longer) {tree : Tree}
    {failure : Failure} :
    concerned tree rule files = .error failure ↔ concerned tree longer files = .error failure := by
  cases h with
  | same => exact Iff.rfl
  | longer hcount hlimit hfind =>
    unfold concerned
    cases rule.find with
    | none => exact Iff.rfl
    | some find =>
      have hhead : (rule.head : Int) ≤ headLimit := by omega
      exact filterM_error_congr fun file failure =>
        ⟨headHolds_error hhead, headHolds_error hlimit⟩

/-! ## Runs side by side -/

/-- What reports show of the violations told: the files, the rules by their labels, and how severe
it is. -/
def shownIn (trace : List Event) : List (String × String × Level) :=
  (trace.filterMap Event.violation?).map fun violation =>
    (violation.file, violation.rule.label, violation.level)

theorem shownIn_append (first second : List Event) :
    shownIn (first ++ second) = shownIn first ++ shownIn second := by
  rw [shownIn, List.filterMap_append, List.map_append]
  rfl

/-- Two runs that end alike, with results or with one failure, where the second one shows all
violations that the first one shows, in order. -/
structure Run.Widens {α β : Type} (run : Run α) (wider : Run β) : Prop where
  ending : (Returns run.outcome ∧ Returns wider.outcome) ∨
    ∃ failure, run.outcome = .error failure ∧ wider.outcome = .error failure
  shown : (shownIn run.trace).Sublist (shownIn wider.trace)

namespace Run.Widens

section

variable {α β γ δ : Type} {run : Run α} {wider : Run β} {next : α → Run γ} {next' : β → Run δ}

theorem done (value : α) (value' : β) : (Run.done value).Widens (Run.done value') :=
  ⟨.inl ⟨returns_ok _, returns_ok _⟩, List.Sublist.refl _⟩

theorem refl (run : Run α) : run.Widens run := by
  refine ⟨?_, List.Sublist.refl _⟩
  cases h : run.outcome with
  | ok value => exact .inl ⟨returns_ok _, returns_ok _⟩
  | error failure => exact .inr ⟨failure, rfl, rfl⟩

theorem bind (h : run.Widens wider)
    (hnext : ∀ value value', run.outcome = .ok value → wider.outcome = .ok value' →
      (next value).Widens (next' value')) : (run >>= next).Widens (wider >>= next') := by
  rcases h.ending with ⟨⟨value, hvalue⟩, value', hvalue'⟩ | ⟨failure, hfails, hfails'⟩
  · have hboth := hnext value value' hvalue hvalue'
    rw [bind_of_ok hvalue, bind_of_ok hvalue']
    refine ⟨hboth.ending, ?_⟩
    rw [shownIn_append, shownIn_append]
    exact h.shown.append hboth.shown
  · rw [bind_of_error hfails, bind_of_error hfails']
    exact ⟨.inr ⟨failure, rfl, rfl⟩, h.shown⟩

theorem bind_same {next next' : α → Run γ} (run : Run α)
    (hnext : ∀ value, (next value).Widens (next' value)) :
    (run >>= next).Widens (run >>= next') := by
  refine (refl run).bind fun value value' hvalue hvalue' => ?_
  obtain rfl : value = value' := Except.ok.inj (hvalue.symm.trans hvalue')
  exact hnext value

theorem each {run : α → Run γ} {wider : β → Run δ} {items : List α} {others : List β}
    (h : List.Forall₂ (fun item other => (run item).Widens (wider other)) items others) :
    (Run.each run items).Widens (Run.each wider others) := by
  induction h with
  | nil => exact done _ _
  | cons hitem _ ih =>
    rw [each_cons, each_cons]
    exact hitem.bind fun _ _ _ _ => ih.bind fun _ _ _ _ => done _ _

end

end Run.Widens

theorem Rule.Extends.widens (h : rule.Extends longer) (place : Place) (diff : List Char)
    (files : List String) :
    (applyRule place diff files rule).Widens (applyRule place diff files longer) := by
  cases hs : select place.tree rule.files place.root files with
  | error failure =>
    have hs' : select place.tree longer.files place.root files = .error failure := h.files_eq ▸ hs
    rw [applyRule_of_unselected hs, applyRule_of_unselected hs']
    exact .refl _
  | ok matched =>
    have hs' : select place.tree longer.files place.root files = .ok matched := h.files_eq ▸ hs
    cases hc : concerned place.tree rule matched with
    | error failure =>
      rw [applyRule_of_unread hs hc, applyRule_of_unread hs' (h.concerned_error_iff.1 hc)]
      exact .refl _
    | ok withMatches =>
      cases hc' : concerned place.tree longer matched with
      | error failure =>
        rw [h.concerned_error_iff.2 hc'] at hc
        cases hc
      | ok withMatches' =>
        rw [applyRule_of_ok hs hc, applyRule_of_ok hs' hc']
        refine ⟨.inl ⟨returns_ok _, returns_ok _⟩, ?_⟩
        simp only [shownIn, violations_toldOf, List.map_map]
        refine h.flaggedOf_sublist fun file => ?_
        simp only [Function.comp_apply, h.label_eq, h.level_eq]

/-- Over files that are there, a rule fails for its globs only, and so does one with a longer
head. -/
theorem Rule.Extends.applied (h : rule.Extends longer) (hlimit : (longer.head : Int) ≤ headLimit)
    (hfiles : ∀ file ∈ files, Returns (place.tree.read (.ofText file))) :
    (∃ failure, select place.tree rule.files place.root files = .error failure ∧
      applyRule place diff files rule = ⟨[], .error failure⟩ ∧
      applyRule place diff files longer = ⟨[], .error failure⟩) ∨
    (applyRule place diff files rule).outcome = .ok (rule.resultOf place diff files) ∧
      (applyRule place diff files longer).outcome = .ok (longer.resultOf place diff files) := by
  cases hs : select place.tree rule.files place.root files with
  | error failure =>
    have hs' : select place.tree longer.files place.root files = .error failure := h.files_eq ▸ hs
    exact .inl ⟨failure, rfl, applyRule_of_unselected hs, applyRule_of_unselected hs'⟩
  | ok matched =>
    have hreturns : ∀ other : Rule, other.files = rule.files → (other.head : Int) ≤ headLimit →
        (applyRule place diff files other).outcome = .ok (other.resultOf place diff files) := by
      intro other hother hhead
      have hglobs := (returns_select_iff hfiles).1 ⟨matched, hother ▸ hs⟩
      obtain ⟨result, hresult⟩ := (returns_applyRule_iff hfiles).2 ⟨hglobs, fun _ _ => hhead⟩
      rw [applyRule_ok hresult]
    have hhead : (rule.head : Int) ≤ headLimit := by
      have := h.head_le
      omega
    exact .inr ⟨hreturns rule rfl hhead, hreturns longer h.files_eq hlimit⟩

end Rules

namespace Command

variable {world : World} {commit : String} {repo : Path} {config longer : Config}

theorem checkRun_widens (h : List.Forall₂ Rule.Extends config.rules longer.rules) :
    (checkRun world repo commit config).Widens (checkRun world repo commit longer) := by
  unfold checkRun Session.check applyRules
  refine .bind_same _ fun root => .bind_same _ fun files => ?_
  refine Run.Widens.bind (.bind_same _ fun diff => .each ?_) fun _ _ _ _ => .done _ _
  exact h.imp fun _ _ hrule => hrule.widens _ _ _

theorem hasErrors_noteAll_iff {trace : List Event} :
    (Ledger.empty.noteAll trace).summary.hasErrors = true ↔
      ∃ shown ∈ shownIn trace, shown.2.2 = .error := by
  rw [hasErrors_iff, Ledger.noteAll_eq]
  simp [shownIn, Ledger.empty]

theorem statusOf_widens {run wider : Run Path} (h : run.Widens wider) (hrun : statusOf run = 1) :
    statusOf wider = 1 := by
  rcases h.ending with ⟨⟨root, hroot⟩, root', hroot'⟩ | ⟨failure, hfails, hfails'⟩
  · simp only [statusOf, hroot, hroot', hasErrors_noteAll_iff] at hrun ⊢
    split at hrun
    · next herrors =>
      obtain ⟨shown, hshown, hlevel⟩ := herrors
      rw [if_pos ⟨shown, h.shown.subset hshown, hlevel⟩]
    · cases hrun
  · simp only [statusOf, hfails, hfails'] at hrun ⊢
    cases failure <;> exact hrun

/-- Where the head of a rule that looks for texts is made longer, no file goes unflagged that was
flagged before. Over files that are there, the rule has matches in the same files, in order, and
flags them as before, and maybe more, unless its globs fail, with any head. A check with such rules
shows all violations it showed before, and if it ended with status 1, it still does. -/
theorem longer_heads_keep_violations :
    (∀ (rule longer : Rule) (place : Place) (diff : List Char) (files : List String),
      rule.Extends longer → (longer.head : Int) ≤ headLimit →
      (∀ file ∈ files, Returns (place.tree.read (.ofText file))) →
      (∃ failure, select place.tree rule.files place.root files = .error failure ∧
        applyRule place diff files rule = ⟨[], .error failure⟩ ∧
        applyRule place diff files longer = ⟨[], .error failure⟩) ∨
      ∃ result result', (applyRule place diff files rule).outcome = .ok result ∧
        (applyRule place diff files longer).outcome = .ok result' ∧
        result.withMatches.Sublist result'.withMatches ∧
        (result.flagged.map fun flagged => { flagged with rule := longer }).Sublist
          result'.flagged) ∧
    ∀ (world : World) (commit : String) (repo : Path) (config longer : Config),
      List.Forall₂ Rule.Extends config.rules longer.rules →
      (shownIn (checkRun world repo commit config).trace).Sublist
        (shownIn (checkRun world repo commit longer).trace) ∧
      ∀ (name : String) (explicit explicit' : Option Path) (verbose : Bool),
        loadConfig world.tree repo explicit = .ok config →
        loadConfig world.tree repo explicit' = .ok longer →
        (execute world (.check commit repo name explicit verbose)).status = 1 →
        (execute world (.check commit repo name explicit' verbose)).status = 1 := by
  constructor
  · intro rule longer place diff files h hlimit hfiles
    refine (h.applied hlimit hfiles).imp_right fun ⟨hrule, hlonger⟩ => ?_
    refine ⟨_, _, hrule, hlonger, h.concernedOf_sublist, ?_⟩
    have hflagged : ((rule.flaggedOf place diff files).map fun flagged =>
        { flagged with rule := longer }).Sublist ((longer.flaggedOf place diff files).map id) :=
      h.flaggedOf_sublist fun file => by rw [h.level_eq]; rfl
    rwa [List.map_id] at hflagged
  · intro world commit repo config longer h
    refine ⟨(checkRun_widens h).shown, ?_⟩
    intro name explicit explicit' verbose hload hload' hstatus
    cases hformat : Format.ofName? name with
    | none =>
      simp only [execute, withConfig, readFormat, hformat] at hstatus ⊢
      exact hstatus
    | some format =>
      rw [execute_check hformat hload, runCheck_eq] at hstatus
      rw [execute_check hformat hload', runCheck_eq]
      exact statusOf_widens (checkRun_widens h) hstatus

/-- A repository with a script that begins with a log and one that goes on with a log, and two
configurations that differ in how far a rule looks for logs. -/
def logsWorld : World :=
  let config (head : String) :=
    "[[rules]]\nfiles = \"*.ts\"\npattern = \"no logs\"\nlevel = \"error\"\nfind = \"log\"\n" ++
      "head = " ++ head ++ "\n"
  { tree := ⟨[(["r"], .directory), (["r", "a.ts"], .file (Utf8.encode "log\n")),
      (["r", "b.ts"], .file (Utf8.encode "go\nlog\n")),
      (["r", "one.toml"], .file (Utf8.encode (config "1"))),
      (["r", "two.toml"], .file (Utf8.encode (config "2")))], []⟩
    git := some fun arguments =>
      let answer := match arguments with
        | "rev-parse" :: _ => "/r\n"
        | "diff-tree" :: _ => "a.ts\x00b.ts\x00"
        | _ => "+log\n"
      ⟨Utf8.encode answer, [], 0⟩
    now := ⟨2000, 1, 1, 0, 0, 0⟩ }

/-- A rule against logs in the first lines of a script. -/
def logsWithin (head : Nat) : Rule := ⟨"no logs", .error, .one "*.ts", some (.literal "log"), head⟩

theorem longer_heads_keep_violations_logs :
    let repo : Path := ⟨.root, ["r"]⟩
    let place : Place := ⟨logsWorld.tree, some repo⟩
    let files := ["/r/b.ts", "/r/a.ts"]
    (∃ result result',
      (applyRule place "+log".toList files (logsWithin 1)).outcome = .ok result ∧
      (applyRule place "+log".toList files (logsWithin 2)).outcome = .ok result' ∧
      result.withMatches.Sublist result'.withMatches ∧
      (result.flagged.map fun flagged => { flagged with rule := logsWithin 2 }).Sublist
        result'.flagged) ∧
    (shownIn (checkRun logsWorld repo "HEAD" ⟨[logsWithin 1], some "/r/one.toml"⟩).trace).Sublist
      (shownIn (checkRun logsWorld repo "HEAD" ⟨[logsWithin 2], some "/r/two.toml"⟩).trace) ∧
    (execute logsWorld (.check "HEAD" repo "human" (some ⟨.root, ["r", "one.toml"]⟩) false)).status
      = 1 ∧
    (execute logsWorld (.check "HEAD" repo "human" (some ⟨.root, ["r", "two.toml"]⟩) false)).status
      = 1 := by
  intro repo place files
  have hextends : (logsWithin 1).Extends (logsWithin 2) :=
    .longer (by decide) (by decide) fun _ h => nomatch h
  have hfiles : ∀ file ∈ files, Returns (place.tree.read (.ofText file)) := by decide +kernel
  have hselect : Returns (select place.tree (logsWithin 1).files place.root files) := by
    decide +kernel
  have hload : loadConfig logsWorld.tree repo (some ⟨.root, ["r", "one.toml"]⟩) =
      .ok ⟨[logsWithin 1], some "/r/one.toml"⟩ := ok_of_toOption (by decide +kernel)
  have hload' : loadConfig logsWorld.tree repo (some ⟨.root, ["r", "two.toml"]⟩) =
      .ok ⟨[logsWithin 2], some "/r/two.toml"⟩ := ok_of_toOption (by decide +kernel)
  have hstatus : (execute logsWorld (.check "HEAD" repo "human"
      (some ⟨.root, ["r", "one.toml"]⟩) false)).status = 1 := by decide +kernel
  obtain ⟨hrules, hchecks⟩ := longer_heads_keep_violations
  obtain ⟨hshown, hends⟩ := hchecks logsWorld "HEAD" repo ⟨[logsWithin 1], some "/r/one.toml"⟩
    ⟨[logsWithin 2], some "/r/two.toml"⟩ (.cons hextends .nil)
  refine ⟨?_, hshown, hstatus, hends "human" _ _ false hload hload' hstatus⟩
  obtain ⟨failure, hfails, -⟩ | happlied :=
    hrules (logsWithin 1) (logsWithin 2) place "+log".toList files hextends (by decide) hfiles
  · rw [hfails] at hselect
    exact absurd hselect not_returns_error
  · exact happlied

/-- The second line of a file makes the difference. -/
example :
    (shownIn (checkRun logsWorld ⟨.root, ["r"]⟩ "HEAD" ⟨[logsWithin 1], none⟩).trace,
      shownIn (checkRun logsWorld ⟨.root, ["r"]⟩ "HEAD" ⟨[logsWithin 2], none⟩).trace) =
      ([("/r/a.ts", "no logs", .error)],
        [("/r/a.ts", "no logs", .error), ("/r/b.ts", "no logs", .error)]) := by
  decide +kernel

end Command

end CommitRules
