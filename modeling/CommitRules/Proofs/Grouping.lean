import CommitRules.Proofs.Reports
import Mathlib.Algebra.GroupWithZero.Nat

/-!
# CommitRules.Proofs.Grouping

Violations by file. A group is extended where it stands and a new one is put at the end, so the
groups come in the order in which their files come up first, and each holds the violations of its
file as they came.

* `groupByFile_eq`: all groups in one equation.
* `groupByFile_of_append`: the groups of two lists, one behind the other.
* `summary_keeps_violations`: a summary holds every violation in one group and counts it once.
-/

namespace CommitRules

/-- The files of violations, in the order in which they come up first. -/
def filesOf (violations : List Violation) : List String := (violations.map (·.file)).eraseDups

/-- The violations of a file, as they came. -/
def groupOf (violations : List Violation) (file : String) : FileGroup :=
  ⟨file, violations.filter fun violation => violation.file = file⟩

/-- How many violations of a level a summary counts. -/
def Summary.count (summary : Summary) : Level → Nat
  | .error => summary.errors
  | .warning => summary.warnings
  | .info => summary.infos

section Files

variable {violations : List Violation} {file : String}

theorem mem_filesOf :
    file ∈ filesOf violations ↔ ∃ violation ∈ violations, violation.file = file := by
  rw [filesOf, List.mem_eraseDups, List.mem_map]

theorem nodup_filesOf (violations : List Violation) : (filesOf violations).Nodup := by
  rw [filesOf, ← addAll_nil]
  exact nodup_addAll List.nodup_nil _

theorem filesOf_snoc (violations : List Violation) (violation : Violation) :
    filesOf (violations ++ [violation]) = addOnce (filesOf violations) violation.file := by
  rw [filesOf, List.map_append, ← addAll_nil, addAll_append, addAll_nil]
  rfl

theorem filesOf_append (violations more : List Violation) :
    filesOf (violations ++ more) =
      filesOf violations ++ (filesOf more).filter fun file => file ∉ filesOf violations := by
  induction more using List.reverseRecOn with
  | nil => simp [filesOf]
  | append_singleton more violation ih =>
    rw [← List.append_assoc, filesOf_snoc, filesOf_snoc, ih]
    by_cases hknown : violation.file ∈ filesOf violations
    · by_cases hmore : violation.file ∈ filesOf more <;> simp [addOnce, hknown, hmore]
    · by_cases hmore : violation.file ∈ filesOf more <;> simp [addOnce, hknown, hmore]

end Files

section Groups

variable {violations : List Violation} {violation : Violation} {files : List String}
  {file : String}

theorem groupOf_eq_nil (h : file ∉ filesOf violations) :
    (groupOf violations file).violations = [] := by
  refine List.filter_eq_nil_iff.2 fun violation hviolation hfile => h (mem_filesOf.2 ?_)
  exact ⟨violation, hviolation, of_decide_eq_true hfile⟩

theorem groupOf_append (violations more : List Violation) (file : String) :
    groupOf (violations ++ more) file =
      ⟨file, (groupOf violations file).violations ++ (groupOf more file).violations⟩ := by
  simp only [groupOf, List.filter_append]

theorem groupOf_other (h : violation.file ≠ file) :
    groupOf (violations ++ [violation]) file = groupOf violations file := by
  simp [groupOf, h]

/-- The group of a file that has come up is extended where it stands. -/
theorem addToGroups_known (hnodup : files.Nodup) (hfile : violation.file ∈ files) :
    addToGroups violation (files.map (groupOf violations)) =
      files.map (groupOf (violations ++ [violation])) := by
  induction files with
  | nil => cases hfile
  | cons first files ih =>
    obtain ⟨hfirst, hnodup⟩ := List.nodup_cons.1 hnodup
    rw [List.map_cons, List.map_cons, addToGroups]
    by_cases heq : first = violation.file
    · -- the groups behind it are those of other files
      have hothers : files.map (groupOf (violations ++ [violation])) =
          files.map (groupOf violations) := by
        refine List.map_congr_left fun other hother => groupOf_other ?_
        rintro rfl
        exact hfirst (heq ▸ hother)
      have hgroup : (groupOf violations first).file = violation.file := heq
      rw [if_pos hgroup, hothers, groupOf_append]
      simp [groupOf, heq]
    · have hgroup : ¬ (groupOf violations first).file = violation.file := heq
      have hrest := (List.mem_cons.1 hfile).resolve_left fun h => heq h.symm
      rw [if_neg hgroup, ih hnodup hrest, groupOf_other fun h => heq h.symm]

theorem addToGroups_new (hfile : violation.file ∉ files) :
    addToGroups violation (files.map (groupOf violations)) =
      files.map (groupOf (violations ++ [violation])) ++ [⟨violation.file, [violation]⟩] := by
  induction files with
  | nil => rfl
  | cons first files ih =>
    obtain ⟨hfirst, hrest⟩ := not_or.1 (mt List.mem_cons.2 hfile)
    have hgroup : ¬ (groupOf violations first).file = violation.file := fun h => hfirst h.symm
    rw [List.map_cons, List.map_cons, addToGroups, if_neg hgroup, ih hrest,
      groupOf_other hfirst, List.cons_append]

theorem groupByFile_eq (violations : List Violation) :
    groupByFile violations = (filesOf violations).map (groupOf violations) := by
  induction violations using List.reverseRecOn with
  | nil => rfl
  | append_singleton violations violation ih =>
    rw [groupByFile_append, List.foldl_cons, List.foldl_nil, ih, filesOf_snoc, addOnce]
    by_cases hfile : violation.file ∈ filesOf violations
    · rw [addToGroups_known (nodup_filesOf violations) hfile,
        if_pos (List.contains_iff_mem.2 hfile)]
    · have hlast : groupOf (violations ++ [violation]) violation.file =
          ⟨violation.file, [violation]⟩ := by
        rw [groupOf_append, groupOf_eq_nil hfile]
        simp [groupOf]
      rw [addToGroups_new hfile, if_neg (mt List.contains_iff_mem.1 hfile), List.map_append,
        List.map_singleton, hlast]

/-- The groups of the first list stay in their places and get longer, and behind them come the
groups of the files that the second list brings up. -/
theorem groupByFile_of_append (violations more : List Violation) :
    groupByFile (violations ++ more) =
      (groupByFile violations).map (fun group =>
        ⟨group.file,
          group.violations ++ more.filter fun violation => violation.file = group.file⟩) ++
      (groupByFile more).filter fun group => group.file ∉ violations.map (·.file) := by
  rw [groupByFile_eq, groupByFile_eq, groupByFile_eq, filesOf_append, List.map_append,
    List.map_map, List.filter_map]
  congr 1
  · exact List.map_congr_left fun file _ => groupOf_append violations more file
  · have hnew : ∀ file, (file ∉ filesOf violations ↔ file ∉ violations.map (·.file)) := fun file =>
      not_congr List.mem_eraseDups
    simp only [hnew]
    refine List.map_congr_left fun file hfile => ?_
    have hfile : file ∉ filesOf violations :=
      (hnew file).2 (of_decide_eq_true (List.mem_filter.1 hfile).2)
    rw [groupOf_append, groupOf_eq_nil hfile]
    rfl

end Groups

theorem count_eq (level : Level) (violations : List Violation) :
    (summarize violations).count level = countLevel level violations := by
  cases level <;> rfl

/-- A summary has one group for each file, in the order in which the files come up first, and the
group holds the violations of its file as they came. So every violation is in the groups as often as
it came, and is counted once under its level. A longer list has the groups of its beginning in
place, and new ones behind them. -/
theorem summary_keeps_violations (violations more : List Violation) :
    let summary := summarize violations
    (summary.groups.map (·.file)).Nodup ∧
    summary.groups.map (·.file) = (violations.map (·.file)).eraseDups ∧
    (∀ group ∈ summary.groups, group.violations ≠ [] ∧
      group.violations = violations.filter fun violation => violation.file = group.file) ∧
    (summary.groups.flatMap (·.violations)).Perm violations ∧
    (∀ level, summary.count level = violations.countP (·.level = level) ∧
      summary.count level =
        (summary.groups.map fun group => group.violations.countP (·.level = level)).sum) ∧
    summary.total = violations.length ∧
    (summary.hasErrors = true ↔ ∃ violation ∈ violations, violation.level = .error) ∧
    (summarize (violations ++ more)).groups =
      summary.groups.map (fun group =>
        ⟨group.file,
          group.violations ++ more.filter fun violation => violation.file = group.file⟩) ++
      (summarize more).groups.filter (fun group => group.file ∉ violations.map (·.file)) ∧
    ∀ level, (summarize (violations ++ more)).count level =
      summary.count level + (summarize more).count level := by
  intro summary
  have hgroups : summary.groups = (filesOf violations).map (groupOf violations) :=
    groupByFile_eq violations
  have hperm : (summary.groups.flatMap (·.violations)).Perm violations :=
    groupByFile_perm violations
  have hfiles : summary.groups.map (·.file) = filesOf violations := by
    rw [hgroups, List.map_map]
    exact List.map_id _
  refine ⟨hfiles ▸ nodup_filesOf violations, hfiles, ?_, hperm, ?_, countLevel_total violations, ?_,
    groupByFile_of_append violations more, ?_⟩
  · intro group hgroup
    rw [hgroups] at hgroup
    obtain ⟨file, hfile, rfl⟩ := List.mem_map.1 hgroup
    obtain ⟨violation, hviolation, rfl⟩ := mem_filesOf.1 hfile
    have hmem : violation ∈ (groupOf violations violation.file).violations :=
      List.mem_filter.2 ⟨hviolation, decide_eq_true rfl⟩
    exact ⟨List.ne_nil_of_mem hmem, rfl⟩
  · intro level
    refine ⟨count_eq level violations, ?_⟩
    rw [count_eq, countLevel, ← hperm.countP_eq, List.countP_flatMap]
    rfl
  · exact @hasErrors_iff ⟨[], [], violations⟩
  · intro level
    rw [count_eq, count_eq, count_eq, countLevel_append]

/-- A file that comes up again has no second group. -/
example :
    let event (file label : String) (level : Level) : Violation :=
      ⟨file, ⟨label, level, .all, none, 10⟩, level⟩
    (summarize [event "b" "x" .error, event "a" "y" .info, event "c" "x" .error,
      event "b" "y" .info]).groups.map (fun group => (group.file, group.violations.length)) =
        [("b", 2), ("a", 1), ("c", 1)] := by decide

end CommitRules
