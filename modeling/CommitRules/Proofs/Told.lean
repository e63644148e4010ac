import CommitRules.Proofs.Evaluation
import CommitRules.Proofs.Ledger
import CommitRules.Report.Summary

/-!
# CommitRules.Proofs.Told

What rules tell, as it stands in a ledger.

* `toldIn_check`: a check that returns has told what its rules mean for the change.
* `violations_toldOf`: the violations a rule tells are the files it flags.
* `hasErrors_told`: a report has errors if a rule of level error has flagged a file.
-/

namespace CommitRules

variable {rules : List Rule} {place : Place} {diff : List Char} {files : List String}

theorem applyRules_isTold {event : Event}
    (h : event ∈ (applyRules place diff files rules).trace) : event.isTold = true := by
  obtain ⟨applied, _, htrace⟩ := applyRules_trace place diff files rules
  rw [htrace] at h
  obtain ⟨rule, _, h⟩ := List.mem_flatMap.1 h
  simp only [Rule.toldOf, List.mem_append, List.mem_flatMap, Rule.toldOfFile] at h
  rcases h with ⟨_, _, h⟩ | h
  · split at h <;> simp at h
    · rcases h with rfl | rfl <;> rfl
    · subst h; rfl
  · rw [List.mem_singleton.1 h]; rfl

variable (rules place diff files) in
theorem toldIn_applyRules :
    toldIn (applyRules place diff files rules).trace = (applyRules place diff files rules).trace :=
  List.filter_eq_self.2 fun _ => applyRules_isTold

/-- A check that returns has told what the rules mean for the change that has been fetched. -/
theorem toldIn_check {session : Session} {fetch : String → Run String} {commit : String}
    {results : List RuleResult}
    (hquiet : toldIn (session.cache.get fetch commit).trace = [])
    (h : (session.check fetch commit place rules files).outcome = .ok results) :
    ∃ text, (session.cache.get fetch commit).outcome = .ok text ∧
      toldIn (session.check fetch commit place rules files).trace =
        rules.flatMap (·.toldOf place text.toList files) := by
  obtain ⟨text, htext, happlied⟩ := Run.bind_ok h
  refine ⟨text, htext, ?_⟩
  rw [Session.check, toldIn_bind_of_ok htext hquiet, toldIn_applyRules, applyRules_ok happlied]

variable (place diff files) in
theorem violations_toldOf (rule : Rule) :
    (rule.toldOf place diff files).filterMap Event.violation? =
      (rule.flaggedOf place diff files).map fun flagged =>
        ⟨flagged.file, flagged.rule, flagged.level⟩ := by
  unfold Rule.toldOf Rule.flaggedOf
  rw [List.filterMap_append, List.filterMap_flatMap]
  split
  · rename_i h
    rw [List.map_map, List.map_eq_flatMap]
    simp [h, Rule.toldOfFile, Event.violation?, List.filterMap_cons]
  · rename_i h
    simp [h, Rule.toldOfFile, Event.violation?, List.filterMap_cons]

theorem mem_flaggedOf {rule : Rule} {flagged : Flagged} :
    flagged ∈ rule.flaggedOf place diff files ↔
      ∃ file ∈ files, ((rule.covers place file = true ∧ rule.concerns place.tree file = true) ∧
        rule.search.isIn diff = true) ∧ flagged = ⟨file, rule, rule.level⟩ := by
  unfold Rule.flaggedOf Rule.concernedOf Rule.covered
  split
  · rename_i h
    simp only [h, List.mem_map, List.mem_filter, and_true, and_assoc, eq_comm]
  · rename_i h
    simp [h]

theorem hasErrors_iff {ledger : Ledger} :
    ledger.summary.hasErrors = true ↔
      ∃ violation ∈ ledger.violations, violation.level = .error := by
  simp [Ledger.summary, Summary.hasErrors, summarize, countLevel, List.countP_pos_iff]

/-- A report on rules that have all been applied has errors if one of level error has flagged a
file. -/
theorem hasErrors_told {trace : List Event}
    (h : toldIn trace = rules.flatMap (·.toldOf place diff files)) :
    (Ledger.empty.noteAll trace).summary.hasErrors = true ↔
      ∃ rule ∈ rules, rule.level = .error ∧
        ∃ flagged, flagged ∈ rule.flaggedOf place diff files := by
  have hviolations : (Ledger.empty.noteAll trace).violations =
      rules.flatMap fun rule => (rule.flaggedOf place diff files).map fun flagged =>
        ⟨flagged.file, flagged.rule, flagged.level⟩ := by
    rw [← Ledger.noteAll_toldIn, h, Ledger.noteAll_eq]
    simp only [List.filterMap_flatMap, violations_toldOf]
    rfl
  rw [hasErrors_iff, hviolations]
  constructor
  · rintro ⟨violation, hmem, hlevel⟩
    obtain ⟨rule, hrule, hmem⟩ := List.mem_flatMap.1 hmem
    obtain ⟨flagged, hflagged, rfl⟩ := List.mem_map.1 hmem
    obtain ⟨file, _, _, rfl⟩ := mem_flaggedOf.1 hflagged
    exact ⟨rule, hrule, hlevel, _, hflagged⟩
  · rintro ⟨rule, hrule, hlevel, flagged, hflagged⟩
    refine ⟨_, List.mem_flatMap.2 ⟨rule, hrule, List.mem_map_of_mem hflagged⟩, ?_⟩
    obtain ⟨file, _, _, rfl⟩ := mem_flaggedOf.1 hflagged
    exact hlevel

end CommitRules
