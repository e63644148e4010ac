import CommitRules.Check.Run

/-!
# CommitRules.Check.Diff

The change under check is fetched when it is first needed and kept from then on, whatever commit is
asked for later. A fetch that fails leaves nothing behind.
-/

namespace CommitRules

/-- The text of the change, once it has been fetched. -/
structure DiffCache where
  text : Option String
  deriving DecidableEq, Repr

namespace DiffCache

def empty : DiffCache := ⟨none⟩

def get (cache : DiffCache) (fetch : String → Run String) (commit : String) : Run String :=
  match cache.text with
  | some text => .done text
  | none => do
    let text ← fetch commit
    Run.note (.loaded commit text.length)
    return text

/-- What is kept after a run of `get`. -/
def after (cache : DiffCache) (run : Run String) : DiffCache :=
  match run.outcome with
  | .ok text => ⟨some text⟩
  | .error _ => cache

end DiffCache

end CommitRules
