import CommitRules.Check.Session
import CommitRules.Proofs.Meaning

/-!
# CommitRules.Proofs.Evaluation

Checks do what rules mean, and break off between two rules.

* `applyRule_ok`, `applyRule_err`: applying a rule comes to what the rule means and tells it, or it
  fails and tells nothing.
* `check_evaluates_rules`: a check that returns has applied every rule as it is meant, in order.
* `check_stops_between_rules`: a check that fails has told what the rules before the failing one
  tell, or nothing at all if there is no change to apply them to.
-/

namespace CommitRules

open CommitRules.Files

section Rules

variable {place : Place} {diff : List Char} {files : List String}

variable (diff) in
theorem flag_eq (rule : Rule) (file : String) :
    flag rule diff file =
      ⟨rule.toldOfFile diff file,
        .ok (if rule.search.isIn diff then some ⟨file, rule, rule.level⟩ else none)⟩ := by
  unfold flag Rule.toldOfFile
  rw [Run.bind_of_ok rfl]
  split <;> rfl

theorem flaggedOf_eq (rule : Rule) :
    ((rule.concernedOf place files).map fun file =>
      if rule.search.isIn diff then some ⟨file, rule, rule.level⟩ else none).filterMap id =
      rule.flaggedOf place diff files := by
  unfold Rule.flaggedOf
  split <;> simp [List.filterMap_map]

theorem applyRule_of_ok {rule : Rule} {matched withMatches : List String}
    (hs : select place.tree rule.files place.root files = .ok matched)
    (hc : concerned place.tree rule matched = .ok withMatches) :
    applyRule place diff files rule =
      ⟨rule.toldOf place diff files, .ok (rule.resultOf place diff files)⟩ := by
  have hm : matched = rule.covered place files := select_ok hs
  have hw : withMatches = rule.concernedOf place files := by
    rw [concerned_ok hc, hm]; rfl
  have hf : Run.each (flag rule diff) withMatches = _ :=
    Run.each_returns fun file _ => flag_eq diff rule file
  unfold applyRule
  rw [hs, Run.ofExcept_ok_bind, hc, Run.ofExcept_ok_bind, hf, Run.bind_of_ok rfl,
    Run.bind_of_ok rfl]
  subst hm hw
  rw [flaggedOf_eq]
  simp [Rule.toldOf, Rule.resultOf, Run.note, pure, Run.done]

theorem applyRule_of_unselected {rule : Rule} {failure : Failure}
    (hs : select place.tree rule.files place.root files = .error failure) :
    applyRule place diff files rule = ⟨[], .error failure⟩ := by
  unfold applyRule
  rw [hs, Run.ofExcept_error_bind]

theorem applyRule_of_unread {rule : Rule} {matched : List String} {failure : Failure}
    (hs : select place.tree rule.files place.root files = .ok matched)
    (hc : concerned place.tree rule matched = .error failure) :
    applyRule place diff files rule = ⟨[], .error failure⟩ := by
  unfold applyRule
  rw [hs, Run.ofExcept_ok_bind, hc, Run.ofExcept_error_bind]

variable (place diff files) in
theorem applyRule_cases (rule : Rule) :
    applyRule place diff files rule =
      ⟨rule.toldOf place diff files, .ok (rule.resultOf place diff files)⟩ ∨
    ∃ failure, applyRule place diff files rule = ⟨[], .error failure⟩ := by
  cases hs : select place.tree rule.files place.root files with
  | error failure => exact .inr ⟨failure, applyRule_of_unselected hs⟩
  | ok matched =>
    cases hc : concerned place.tree rule matched with
    | error failure => exact .inr ⟨failure, applyRule_of_unread hs hc⟩
    | ok withMatches => exact .inl (applyRule_of_ok hs hc)

theorem applyRule_ok {rule : Rule} {result : RuleResult}
    (h : (applyRule place diff files rule).outcome = .ok result) :
    applyRule place diff files rule =
      ⟨rule.toldOf place diff files, .ok (rule.resultOf place diff files)⟩ := by
  rcases applyRule_cases place diff files rule with hr | ⟨_, hr⟩
  · exact hr
  · rw [hr] at h; cases h

theorem applyRule_err {rule : Rule} {failure : Failure}
    (h : (applyRule place diff files rule).outcome = .error failure) :
    applyRule place diff files rule = ⟨[], .error failure⟩ := by
  rcases applyRule_cases place diff files rule with hr | ⟨_, hr⟩
  · rw [hr] at h; cases h
  · rw [hr] at h ⊢; cases h; rfl

theorem applyRules_ok {rules : List Rule} {results : List RuleResult}
    (h : (applyRules place diff files rules).outcome = .ok results) :
    applyRules place diff files rules =
      ⟨rules.flatMap (·.toldOf place diff files),
        .ok (rules.map (·.resultOf place diff files))⟩ := by
  have hall : ∀ rule ∈ rules, applyRule place diff files rule =
      ⟨rule.toldOf place diff files, .ok (rule.resultOf place diff files)⟩ := by
    intro rule hrule
    obtain ⟨result, hr⟩ := Run.each_ok h rule hrule
    exact applyRule_ok hr
  exact Run.each_returns hall

theorem applyRules_err {rules : List Rule} {failure : Failure}
    (h : (applyRules place diff files rules).outcome = .error failure) :
    ∃ before rule after, rules = before ++ rule :: after ∧
      (∃ results, (applyRules place diff files before).outcome = .ok results) ∧
      (applyRule place diff files rule).outcome = .error failure ∧
      (applyRules place diff files rules).trace = (applyRules place diff files before).trace := by
  obtain ⟨before, rule, after, hrules, hbefore, hrule, htrace⟩ := Run.each_fails h
  refine ⟨before, rule, after, hrules, hbefore, hrule, ?_⟩
  rw [applyRule_err hrule, List.append_nil] at htrace
  exact htrace

variable (place diff files) in
/-- Whatever happens, what is told is what the rules applied so far tell. -/
theorem applyRules_trace (rules : List Rule) :
    ∃ applied, applied <+: rules ∧
      (applyRules place diff files rules).trace = applied.flatMap (·.toldOf place diff files) := by
  cases h : (applyRules place diff files rules).outcome with
  | ok results => exact ⟨rules, List.prefix_refl rules, congrArg Run.trace (applyRules_ok h)⟩
  | error failure =>
    obtain ⟨before, rule, after, hrules, ⟨results, hbefore⟩, _, htrace⟩ := applyRules_err h
    refine ⟨before, ⟨rule :: after, hrules.symm⟩, ?_⟩
    rw [htrace, applyRules_ok hbefore]

theorem processed_of_violation {rules : List Rule} {file : String} {rule : Rule} {level : Level}
    (h : .violation file rule level ∈ (applyRules place diff files rules).trace) :
    .processed rule (rule.concernedOf place files) ∈ (applyRules place diff files rules).trace := by
  obtain ⟨applied, _, htrace⟩ := applyRules_trace place diff files rules
  rw [htrace] at h ⊢
  obtain ⟨other, hother, h⟩ := List.mem_flatMap.1 h
  refine List.mem_flatMap.2 ⟨other, hother, ?_⟩
  have : rule = other := by
    simp only [Rule.toldOf, List.mem_append, List.mem_flatMap, Rule.toldOfFile] at h
    rcases h with ⟨_, _, h⟩ | h
    · split at h <;> simp at h
      exact h.2.1
    · simp at h
  subst this
  simp [Rule.toldOf]

end Rules

section Checks

variable {session : Session} {fetch : String → Run String} {commit : String} {place : Place}
  {rules : List Rule} {files : List String}

theorem check_of_fetched {diff : String} (h : (session.cache.get fetch commit).outcome = .ok diff) :
    session.check fetch commit place rules files =
      ⟨(session.cache.get fetch commit).trace ++ (applyRules place diff.toList files rules).trace,
        (applyRules place diff.toList files rules).outcome⟩ := Run.bind_of_ok h

theorem check_of_unfetched {failure : Failure}
    (h : (session.cache.get fetch commit).outcome = .error failure) :
    session.check fetch commit place rules files =
      ⟨(session.cache.get fetch commit).trace, .error failure⟩ := Run.bind_of_error h

/-- A check that returns has had the change, and its results and all it has told behind fetching it
are what the rules mean for the files, one rule after the other. -/
theorem check_evaluates_rules (config : Config) {results : List RuleResult}
    (h : (session.check fetch commit place config.rules files).outcome = .ok results) :
    ∃ diff, (session.cache.get fetch commit).outcome = .ok diff ∧
      results = config.rules.map (·.resultOf place diff.toList files) ∧
      (session.check fetch commit place config.rules files).trace =
        (session.cache.get fetch commit).trace ++
          config.rules.flatMap (·.toldOf place diff.toList files) := by
  obtain ⟨diff, hdiff, hrules⟩ := Run.bind_ok h
  have happlied := applyRules_ok hrules
  refine ⟨diff, hdiff, ?_, ?_⟩
  · rw [happlied] at hrules
    exact (Except.ok.inj hrules).symm
  · rw [check_of_fetched hdiff, happlied]

/-- Two scripts and a file that is none, all of which begin with the same line. -/
def threeFiles : Tree :=
  let bytes := Text.Utf8.encode "log\nmore"
  ⟨[(["r"], .directory), (["r", "a.ts"], .file bytes), (["r", "b.js"], .file bytes),
    (["r", "c.ts"], .file bytes)], []⟩

def scriptRule : Rule := ⟨"no logs", .error, .one "*.ts", some (.literal "log"), 1⟩

theorem check_evaluates_rules_scripts :
    (Session.start.check (fun _ => .done "+log") "HEAD" ⟨threeFiles, some ⟨.root, ["r"]⟩⟩
        [scriptRule] ["/r/c.ts", "/r/b.js", "/r/d.ts", "/r/a.ts"]).outcome =
      .ok [⟨scriptRule, ["/r/c.ts", "/r/a.ts"], ["/r/c.ts", "/r/a.ts"],
        [⟨"/r/c.ts", scriptRule, .error⟩, ⟨"/r/a.ts", scriptRule, .error⟩]⟩] ∧
    ∃ diff, (DiffCache.empty.get (fun _ => .done "+log") "HEAD").outcome = .ok diff ∧
      [⟨scriptRule, ["/r/c.ts", "/r/a.ts"], ["/r/c.ts", "/r/a.ts"],
        [⟨"/r/c.ts", scriptRule, .error⟩, ⟨"/r/a.ts", scriptRule, .error⟩]⟩] =
        [scriptRule].map (·.resultOf ⟨threeFiles, some ⟨.root, ["r"]⟩⟩ diff.toList
          ["/r/c.ts", "/r/b.js", "/r/d.ts", "/r/a.ts"]) ∧
      (Session.start.check (fun _ => .done "+log") "HEAD" ⟨threeFiles, some ⟨.root, ["r"]⟩⟩
          [scriptRule] ["/r/c.ts", "/r/b.js", "/r/d.ts", "/r/a.ts"]).trace =
        (DiffCache.empty.get (fun _ => .done "+log") "HEAD").trace ++
          [scriptRule].flatMap (·.toldOf ⟨threeFiles, some ⟨.root, ["r"]⟩⟩ diff.toList
            ["/r/c.ts", "/r/b.js", "/r/d.ts", "/r/a.ts"]) :=
  have h := ok_of_toOption (by decide +kernel)
  ⟨h, check_evaluates_rules ⟨[scriptRule], none⟩ h⟩

/-- A check that fails has failed over the change, and then nothing else has happened and no file
counts; or over one of the rules, and then what has happened is what happens in a check of the rules
before that one, which returns. No violation is told without telling that its rule has been
applied. -/
theorem check_stops_between_rules (session : Session) (fetch : String → Run String)
    (commit : String) (place : Place) (config : Config) (files : List String) :
    (∀ failure, (session.check fetch commit place config.rules files).outcome = .error failure →
      ((session.cache.get fetch commit).outcome = .error failure ∧
        ∀ place' rules' files', session.check fetch commit place' rules' files' =
          ⟨(session.cache.get fetch commit).trace, .error failure⟩) ∨
      ∃ k rule diff, config.rules[k]? = some rule ∧
        (session.cache.get fetch commit).outcome = .ok diff ∧
        (applyRule place diff.toList files rule).outcome = .error failure ∧
        (∃ results, (session.check fetch commit place (config.rules.take k) files).outcome =
          .ok results) ∧
        (session.check fetch commit place config.rules files).trace =
          (session.check fetch commit place (config.rules.take k) files).trace) ∧
    ∃ told, (session.check fetch commit place config.rules files).trace =
        (session.cache.get fetch commit).trace ++ told ∧
      ∀ file rule level, .violation file rule level ∈ told →
        ∃ concerned, .processed rule concerned ∈ told := by
  cases hf : (session.cache.get fetch commit).outcome with
  | error failure =>
    have hany : ∀ place' rules' files', session.check fetch commit place' rules' files' =
        ⟨(session.cache.get fetch commit).trace, .error failure⟩ :=
      fun _ _ _ => check_of_unfetched hf
    refine ⟨fun other h => .inl ?_, [], ?_, ?_⟩
    · rw [hany] at h
      cases h
      exact ⟨rfl, hany⟩
    · rw [hany, List.append_nil]
    · intro _ _ _ h; cases h
  | ok diff =>
    refine ⟨fun failure h => .inr ?_, (applyRules place diff.toList files config.rules).trace, ?_,
      ?_⟩
    · rw [check_of_fetched hf] at h
      obtain ⟨before, rule, after, hrules, hbefore, hrule, htrace⟩ := applyRules_err h
      -- the rules before the failing one are a check of their own, which returns
      have htake : config.rules.take before.length = before := by simp [hrules]
      refine ⟨before.length, rule, diff, by simp [hrules], rfl, hrule, ?_, ?_⟩
      · rw [htake, check_of_fetched hf]; exact hbefore
      · rw [htake, check_of_fetched hf, check_of_fetched hf, htrace]
    · rw [check_of_fetched hf]
    · intro file rule level h
      exact ⟨_, processed_of_violation h⟩

end Checks

end CommitRules
