import CommitRules.Text.Lines

/-!
# CommitRules.Files.Path

Paths as lists of parts. A path may start at the root, which two slashes at its start, but not more
of them, keep apart. Empty parts and single dots are dropped when a path is read; double dots stay,
because what they lead to depends on the files there are.
-/

namespace CommitRules.Files

open CommitRules.Text

inductive Anchor where
  | relative
  | root
  /-- The root, written with two slashes. -/
  | doubleRoot
  deriving DecidableEq, Repr

def Anchor.text : Anchor → String
  | .relative => ""
  | .root => "/"
  | .doubleRoot => "//"

structure Path where
  anchor : Anchor
  parts : List String
  deriving DecidableEq, Repr

namespace Path

/-- Where a path starts, by its slashes. -/
def anchorOf : List Char → Anchor
  | '/' :: '/' :: '/' :: _ => .root
  | '/' :: '/' :: _ => .doubleRoot
  | '/' :: _ => .root
  | _ => .relative

/-- The parts of a path: what stands between slashes, without empty parts and single dots. -/
def partsOf (text : List Char) : List String :=
  ((splitAt '/' text).filter fun part => !part.isEmpty && part != ['.']).map String.ofList

def ofText (text : String) : Path := ⟨anchorOf text.toList, partsOf text.toList⟩

/-- Writes a path; the relative path without parts is a dot. -/
def text (path : Path) : String :=
  if path.anchor = .relative && path.parts.isEmpty then "."
  else path.anchor.text ++ "/".intercalate path.parts

/-- Whether a path holds a NUL, which the name of a file never does. -/
def hasNul (path : Path) : Bool := path.text.toList.contains (Char.ofNat 0)

def isAbsolute (path : Path) : Bool := path.anchor ≠ .relative

/-- A path continued by another one; one that starts at the root stands alone. -/
def join (path other : Path) : Path :=
  if other.isAbsolute then other else ⟨path.anchor, path.parts ++ other.parts⟩

/-- The way from `base` to a path below it. -/
def below? (base path : Path) : Option Path :=
  if base.anchor = path.anchor && base.parts.isPrefixOf path.parts then
    some ⟨.relative, path.parts.drop base.parts.length⟩
  else none

/-- A path is found again below the path it was joined to. -/
theorem below?_join (base : Path) {path : Path} (h : path.anchor = .relative) :
    below? base (base.join path) = some path := by
  cases path with
  | mk anchor parts =>
    subst h
    simp [join, isAbsolute, below?]

/-- The last part of a path, which is empty for a path without parts. -/
def name (path : Path) : String := path.parts.getLast?.getD ""

def parent (path : Path) : Path := { path with parts := path.parts.dropLast }

/-- The parts with every double dot resolved against the part before it. -/
def resolveDots (parts : List String) : List String :=
  (parts.foldl (fun done part => if part = ".." then done.drop 1 else part :: done) []).reverse

/-- The path from the root that a path means in a working directory, where nothing is linked. -/
def resolve (cwd : List String) (path : Path) : Path :=
  ⟨.root, resolveDots (if path.isAbsolute then path.parts else cwd ++ path.parts)⟩

/-- A path under a directory as messages show it: the way from there if it lies below. -/
def shownFrom (base : Option Path) (text : String) : String :=
  match base with
  | none => text
  | some base =>
    match below? base (ofText text) with
    | some rest => rest.text
    | none => text

end Path

end CommitRules.Files
