import CommitRules.Failure
import CommitRules.Files.Path

/-!
# CommitRules.Files.Tree

The files there are. A tree lists directories and files by their parts from the root; every entry's
directories are entries too. There are no links, so a path is followed part by part, and a double
dot leads back to where the part before it was looked up.
-/

namespace CommitRules.Files

open CommitRules.Text

inductive Entry where
  | directory
  | file (bytes : List UInt8)
  deriving DecidableEq, Repr

def Entry.isDirectory : Entry → Bool
  | .directory => true
  | .file _ => false

/-- Files and directories, and the working directory. -/
structure Tree where
  entries : List (List String × Entry)
  cwd : List String

/-- A part of a path is at most this long, in bytes. -/
def partLimit : Nat := 255

/-- A path is shorter than this, in bytes. -/
def pathLimit : Nat := 4096

namespace Tree

/-- The entry with the given parts from the root. -/
def entry? (tree : Tree) (parts : List String) : Option Entry :=
  if parts.isEmpty then some .directory else tree.entries.lookup parts

/-- Follows parts from an entry on; `here` holds the parts from the root, last one first. -/
def follow (tree : Tree) : List String → Entry → List String → Except SystemError Entry
  | _, entry, [] => .ok entry
  | here, entry, part :: rest =>
    if !entry.isDirectory then .error .notDirectory
    else if part = ".." then
      follow tree (here.drop 1) .directory rest
    else if partLimit < part.utf8ByteSize then .error .nameTooLong
    else
      match tree.entry? (part :: here).reverse with
      | none => .error .noEntry
      | some entry => follow tree (part :: here) entry rest

/-- What a path leads to. -/
def look (tree : Tree) (path : Path) : Except SystemError Entry :=
  if pathLimit ≤ path.text.utf8ByteSize then .error .nameTooLong
  else
    let start := if path.isAbsolute then [] else tree.cwd.reverse
    tree.follow start ((tree.entry? start.reverse).getD .directory) path.parts

def failure (error : SystemError) (path : Path) : Failure := .system error (quoted path.text)

/-- Whether a path leads to something. A path that is too long is a failure. -/
def exists? (tree : Tree) (path : Path) : Except Failure Bool :=
  if path.hasNul then .ok false
  else
    match tree.look path with
    | .ok _ => .ok true
    | .error .nameTooLong => .error (failure .nameTooLong path)
    | .error _ => .ok false

def read (tree : Tree) (path : Path) : Except Failure (List UInt8) :=
  if path.hasNul then .error .embeddedNul
  else
    match tree.look path with
    | .ok (.file bytes) => .ok bytes
    | .ok .directory => .error (failure .isDirectory path)
    | .error error => .error (failure error path)

/-- The tree with an entry at the given parts, and with the directories on the way. -/
def put (tree : Tree) (parts : List String) (entry : Entry) : Tree :=
  let ways := (List.range parts.length).map fun n => parts.take n
  let missing := ways.filter fun way => (tree.entry? way).isNone
  let others := tree.entries.filter fun other => other.1 != parts
  { tree with entries := missing.map (fun way => (way, .directory)) ++ (parts, entry) :: others }

/-- The tree without the entry at the given parts and everything below it. -/
def remove (tree : Tree) (parts : List String) : Tree :=
  { tree with entries := tree.entries.filter fun entry => !parts.isPrefixOf entry.1 }

end Tree

end CommitRules.Files
