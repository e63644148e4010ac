import CommitRules.Failure
import CommitRules.Glob.Piece
import CommitRules.Regex.CharClass
import CommitRules.Regex.Matcher

/-!
# CommitRules.Glob.Compile

A glob as a pattern, piece by piece. Only brackets can be at fault, by a range whose ends are in
the wrong order.
-/

namespace CommitRules.Glob

open CommitRules.Regex

def exactly (c : Char) : CharTest := .literal .exact false c.toNat

def notSlash : CharTest := .literal .exact true 47

/-- Any number of characters that pass a test, as many as possible first. -/
def many (test : CharTest) : Node := .span .greedy ⟨0, none⟩ test

/-- The members between brackets, from left to right: single characters, and ranges where a hyphen
stands between two. `offset` is where they start in the rendered glob. -/
def members (offset : Nat) : List Char → Except Fault (List ClassItem)
  | [] => .ok []
  | low :: '-' :: high :: rest =>
    if high < low then
      .error (.malformed (.badRange (renderMember low) (renderMember high)) offset)
    else do
      let width := (renderMember low).length + 1 + (renderMember high).length
      return .range low.toNat high.toNat :: (← members (offset + width) rest)
  | c :: rest => do
    return .char c.toNat :: (← members (offset + (renderMember c).length) rest)

/-- One piece; `offset` is where it starts in the rendered glob. -/
def Piece.node (offset : Nat) : Piece → Except Fault Node
  | .folders =>
    .ok (.rounds .greedy ⟨0, some 1⟩ (.seq (many (.any false)) (.one (exactly '/'))))
  | .text => .ok (many (.any false))
  | .name => .ok (many notSlash)
  | .one => .ok (.one notSlash)
  | .oneOf true body => do
    return .one (classTest .exact false true (← members (offset + 2) ('/' :: body)))
  | .oneOf false body => do
    return .one (classTest .exact false false (← members (offset + 1) body))
  | .char c => .ok (.one (exactly c))

def nodes (offset : Nat) : List Piece → Except Fault (List Node)
  | [] => .ok []
  | piece :: rest => do
    let node ← piece.node offset
    return node :: (← nodes (offset + piece.render.length) rest)

def compile (glob : List Char) : Except Failure Node :=
  let pieces := pieces glob
  match nodes 0 pieces with
  | .ok nodes => .ok (Node.sequence nodes)
  | .error fault => .error (.badPattern (fault.message (render pieces)))

end CommitRules.Glob
