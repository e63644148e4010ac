import CommitRules.Check.Run
import CommitRules.Files.Head
import CommitRules.Files.Select

/-!
# CommitRules.Check.Evaluate

Rules applied to the files of a change. A rule concerns the files in its scope whose head holds what
it looks for; if the change itself holds what the rule searches for, each of them breaks the rule.
Everything a rule needs to read is read before the first of its events.
-/

namespace CommitRules

open CommitRules.Files

/-- A file that breaks a rule. -/
structure Flagged where
  file : String
  rule : Rule
  level : Level
  deriving DecidableEq, Repr

/-- What applying a rule has come to. -/
structure RuleResult where
  rule : Rule
  /-- The files in the scope of the rule. -/
  matched : List String
  /-- Those of them that the rule concerns. -/
  withMatches : List String
  /-- Those of them that break the rule. -/
  flagged : List Flagged
  deriving DecidableEq, Repr

/-- Where rules are applied: the files there are, and the directory their globs start from. -/
structure Place where
  tree : Tree
  root : Option Path

/-- Whether the head of a file holds what a rule looks for. -/
def headHolds (tree : Tree) (find : Find) (head : Nat) (file : String) : Except Failure Bool :=
  (readHead tree file head).map find.isIn

/-- The files a rule concerns, of those in its scope. -/
def concerned (tree : Tree) (rule : Rule) (files : List String) : Except Failure (List String) :=
  match rule.find with
  | none => .ok files
  | some find => files.filterM (headHolds tree find rule.head)

/-- Reports a file that a rule concerns; answers it if it breaks the rule. -/
def flag (rule : Rule) (diff : List Char) (file : String) : Run (Option Flagged) := do
  Run.note (.matched file)
  if rule.search.isIn diff then
    Run.note (.violation file rule rule.level)
    return some ⟨file, rule, rule.level⟩
  else return none

def applyRule (place : Place) (diff : List Char) (files : List String) (rule : Rule) :
    Run RuleResult := do
  let matched ← Run.ofExcept (select place.tree rule.files place.root files)
  let withMatches ← Run.ofExcept (concerned place.tree rule matched)
  let flagged ← Run.each (flag rule diff) withMatches
  Run.note (.processed rule withMatches)
  return ⟨rule, matched, withMatches, flagged.filterMap id⟩

/-- Applies rules, one after the other, until one fails. -/
def applyRules (place : Place) (diff : List Char) (files : List String) (rules : List Rule) :
    Run (List RuleResult) :=
  Run.each (applyRule place diff files) rules

end CommitRules
