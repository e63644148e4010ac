import CommitRules.Check.Diff
import CommitRules.Check.Evaluate
import CommitRules.Report.Ledger

/-!
# CommitRules.Check.Session

Several checks of one commit, one after the other, which share the change and report to the same
ledger.
-/

namespace CommitRules

/-- What outlives a check. -/
structure Session where
  cache : DiffCache
  ledger : Ledger

namespace Session

def start : Session := ⟨.empty, .empty⟩

/-- Applies rules to files: the change comes first, once, and no file is read without it. -/
def check (session : Session) (fetch : String → Run String) (commit : String) (place : Place)
    (rules : List Rule) (files : List String) : Run (List RuleResult) := do
  let diff ← session.cache.get fetch commit
  applyRules place diff.toList files rules

/-- What outlives the check as well: the change if it was fetched, and what was reported. -/
def afterCheck (session : Session) (fetch : String → Run String) (commit : String)
    (place : Place) (rules : List Rule) (files : List String) : Session :=
  ⟨session.cache.after (session.cache.get fetch commit),
    session.ledger.noteAll (session.check fetch commit place rules files).trace⟩

end Session

end CommitRules
