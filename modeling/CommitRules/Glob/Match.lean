import CommitRules.Glob.Braces
import CommitRules.Glob.Compile

/-!
# CommitRules.Glob.Match

Lists of globs. Each glob that matches a path takes it in, or out again if it is negated by a
leading `!`; the last one that matches decides. A list is read as a whole: a fault in any glob is a
fault whatever the path.
-/

namespace CommitRules.Glob

open CommitRules.Regex

/-- A glob with its alternatives, compiled. -/
structure Entry where
  negated : Bool
  variants : List Node

namespace Entry

/-- Reads a glob, with a leading `!` if it is negated. -/
def ofText (text : List Char) : Except Failure Entry := do
  match text with
  | '!' :: glob => return ⟨true, ← (expand glob).mapM compile⟩
  | glob => return ⟨false, ← (expand glob).mapM compile⟩

/-- Whether one of the alternatives matches a path. -/
def hits (entry : Entry) (path : List Char) : Bool := entry.variants.any (·.matchesAll path)

end Entry

/-- The verdict on a path after one more entry. -/
def verdict (path : List Char) (taken : Bool) (entry : Entry) : Bool :=
  if entry.hits path then !entry.negated else taken

def takes (globs : List String) (path : String) : Except Failure Bool := do
  let entries ← globs.mapM fun glob => Entry.ofText glob.toList
  return entries.foldl (verdict path.toList) false

end CommitRules.Glob
