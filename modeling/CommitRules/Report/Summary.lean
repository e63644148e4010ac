import CommitRules.Report.Ledger

/-!
# CommitRules.Report.Summary

Violations by file, in the order in which the files come up first, and how many there are of each
level.
-/

namespace CommitRules

/-- The violations of one file, in order. -/
structure FileGroup where
  file : String
  violations : List Violation
  deriving DecidableEq, Repr

/-- Violations by file, and their number by level. -/
structure Summary where
  groups : List FileGroup
  errors : Nat
  warnings : Nat
  infos : Nat
  deriving DecidableEq, Repr

/-- Adds a violation to the group of its file, or to a new one at the end. -/
def addToGroups (violation : Violation) : List FileGroup → List FileGroup
  | [] => [⟨violation.file, [violation]⟩]
  | group :: groups =>
    if group.file = violation.file then
      { group with violations := group.violations ++ [violation] } :: groups
    else group :: addToGroups violation groups

def groupByFile (violations : List Violation) : List FileGroup :=
  violations.foldl (fun groups violation => addToGroups violation groups) []

/-- Grouping can go on where it has stopped. -/
theorem groupByFile_append (first second : List Violation) :
    groupByFile (first ++ second) =
      second.foldl (fun groups violation => addToGroups violation groups) (groupByFile first) := by
  simp [groupByFile]

def countLevel (level : Level) (violations : List Violation) : Nat :=
  violations.countP fun violation => violation.level = level

theorem countLevel_append (level : Level) (first second : List Violation) :
    countLevel level (first ++ second) = countLevel level first + countLevel level second := by
  simp [countLevel]

/-- Every violation has one level. -/
theorem countLevel_total (violations : List Violation) :
    countLevel .error violations + countLevel .warning violations + countLevel .info violations =
      violations.length := by
  induction violations with
  | nil => rfl
  | cons violation rest ih =>
    simp only [countLevel, List.countP_cons, List.length_cons] at ih ⊢
    cases violation.level <;> simp <;> omega

def summarize (violations : List Violation) : Summary :=
  ⟨groupByFile violations, countLevel .error violations, countLevel .warning violations,
    countLevel .info violations⟩

namespace Summary

def total (summary : Summary) : Nat := summary.errors + summary.warnings + summary.infos

def hasErrors (summary : Summary) : Bool := 0 < summary.errors

end Summary

def Ledger.summary (ledger : Ledger) : Summary := summarize ledger.violations

end CommitRules
