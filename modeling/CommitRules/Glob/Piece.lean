import CommitRules.Text.Quoted

/-!
# CommitRules.Glob.Piece

The pieces of a glob without alternatives, left to right, the longest form first. `Piece.render`
writes a piece as the regular expression it amounts to; faults are placed by it.
-/

namespace CommitRules.Glob

open CommitRules.Text

inductive Piece where
  /-- Any number of directories. -/
  | folders
  /-- Any text without line feeds. -/
  | text
  /-- Any text inside one part of a path. -/
  | name
  /-- Any one character inside one part of a path. -/
  | one
  /-- One character between brackets, or any other one if `negated`; then neither `!` nor `^` is
  part of the body. -/
  | oneOf (negated : Bool) (body : List Char)
  | char (c : Char)
  deriving DecidableEq, Repr

/-- The piece for what stands between brackets. -/
def Piece.ofBody : List Char → Piece
  | '!' :: body => .oneOf true body
  | '^' :: body => .oneOf true body
  | body => .oneOf false body

/-- The characters behind an opening bracket up to the bracket that closes it: the first one that is
not the first character. -/
def bracketBody? : List Char → Option (List Char)
  | [] => none
  | c :: rest => if rest.contains ']' then some (c :: rest.takeWhile (· != ']')) else none

/-- The first piece of a glob that starts with `c`, and how many characters behind `c` belong to
it. -/
def firstPiece (c : Char) (rest : List Char) : Piece × Nat :=
  match c, rest with
  | '*', '*' :: '/' :: _ => (.folders, 2)
  | '*', '*' :: _ => (.text, 1)
  | '*', _ => (.name, 0)
  | '?', _ => (.one, 0)
  | '[', rest =>
    match bracketBody? rest with
    | some body => (.ofBody body, body.length + 1)
    | none => (.char '[', 0)
  | c, _ => (.char c, 0)

/-- The pieces of a glob behind its first `skip` characters. -/
def piecesBehind : Nat → List Char → List Piece
  | _, [] => []
  | skip + 1, _ :: rest => piecesBehind skip rest
  | 0, c :: rest =>
    let (piece, more) := firstPiece c rest
    piece :: piecesBehind more rest

def pieces (glob : List Char) : List Piece := piecesBehind 0 glob

/-- Holds of the characters that mean something in a regular expression. -/
def isSpecial (c : Char) : Bool :=
  "()[]?*+-|^$.&~# \t\n\r".toList.contains c || ['{', '}', backslash].contains c ||
    c.toNat = 11 || c.toNat = 12

/-- One character as a regular expression. -/
def renderChar (c : Char) : List Char := if isSpecial c then [backslash, c] else [c]

/-- One character inside brackets. -/
def renderMember (c : Char) : List Char := if c = backslash then [c, c] else [c]

/-- A piece as a regular expression. -/
def Piece.render : Piece → List Char
  | .folders => "(?:.*/)?".toList
  | .text => ".*".toList
  | .name => "[^/]*".toList
  | .one => "[^/]".toList
  | .oneOf true body => "[^/".toList ++ body.flatMap renderMember ++ [']']
  | .oneOf false body => '[' :: body.flatMap renderMember ++ [']']
  | .char c => renderChar c

/-- A glob as a regular expression. -/
def render (pieces : List Piece) : List Char := pieces.flatMap Piece.render

end CommitRules.Glob
