import CommitRules.Files.Tree
import CommitRules.Glob.Match
import CommitRules.Rule

/-!
# CommitRules.Files.Select

The files of a change that a rule is about: those its globs take in, as they are called from the
root directory of the change if they lie below it, and that are there.
-/

namespace CommitRules.Files

/-- The candidates the globs of a rule take in. -/
def inScope (scope : FileScope) (root : Option Path) (candidates : List String) :
    Except Failure (List String) :=
  match scope.active? with
  | none => .ok candidates
  | some globs => candidates.filterM fun file => Glob.takes globs (Path.shownFrom root file)

/-- The candidates that are there. -/
def present (tree : Tree) (candidates : List String) : Except Failure (List String) :=
  candidates.filterM fun file => tree.exists? (Path.ofText file)

/-- The candidates a rule is about, in order. -/
def select (tree : Tree) (scope : FileScope) (root : Option Path) (candidates : List String) :
    Except Failure (List String) := do
  present tree (← inScope scope root candidates)

end CommitRules.Files
