import CommitRules.Check.Run
import CommitRules.Files.Tree
import CommitRules.Text.Blank

/-!
# CommitRules.Check.Git

What is asked of git: the root directory of a repository, the files a commit touches, and the change
it makes. Both streams git answers on must be UTF-8; any kind of line end becomes a line feed.
-/

namespace CommitRules.Git

open CommitRules.Files
open CommitRules.Text

/-- What git answers. -/
structure Reply where
  output : List UInt8
  complaint : List UInt8
  code : Int

/-- The git program, if there is one: what it answers when called with arguments. -/
abbrev Tool := Option (List String → Reply)

/-- A path as failures to start a program show it. -/
def shownPath (path : Path) : String := "PosixPath(" ++ quoted path.text ++ ")"

/-- No program could be started. -/
def notFound (subject : String) : Failure :=
  .git ("git executable not found: " ++ (Failure.system .noEntry subject).message)

/-- Why a program cannot be started in a directory, if so. -/
def startFailure? (tree : Tree) (repo : Path) : Option Failure :=
  match tree.look repo with
  | .ok .directory => none
  | .ok (.file _) => some (.system .notDirectory (shownPath repo))
  | .error .noEntry => some (notFound (shownPath repo))
  | .error error => some (.system error (shownPath repo))

def streamText (bytes : List UInt8) : Except Failure String :=
  match Utf8.decodeChars bytes with
  | .ok chars => .ok (String.ofList (unifyNewlines chars))
  | .error fault => .error (.undecodable fault)

/-- The text git answers, unless it refuses. -/
def replyText (arguments : List String) (reply : Reply) : Except Failure String := do
  let output ← streamText reply.output
  let complaint ← streamText reply.complaint
  if reply.code = 0 then return output
  let complaint := strip complaint
  if complaint.isEmpty then .error (.git ("git " ++ " ".intercalate arguments ++ " failed"))
  else .error (.git complaint)

def call (tool : Tool) (tree : Tree) (repo : Path) (arguments : List String) : Run String :=
  if repo.hasNul || arguments.any (·.toList.contains (Char.ofNat 0)) then
    .ofExcept (.error .embeddedNul)
  else
    match startFailure? tree repo, tool with
    | some failure, _ => .ofExcept (.error failure)
    | none, none => .ofExcept (.error (notFound (quoted "git")))
    | none, some answer => do
      Run.note (.asked arguments)
      Run.ofExcept (replyText arguments (answer arguments))

/-- The root directory of the repository a directory belongs to. -/
def root (tool : Tool) (tree : Tree) (repo : Path) : Run Path := do
  let output ← call tool tree repo ["rev-parse", "--show-toplevel"]
  let name := strip output
  if name.isEmpty then .ofExcept (.error (.git "Could not determine git root directory"))
  else return Path.ofText name

/-- The names in an answer that ends each of them with a NUL. -/
def namesOf (output : String) : List String :=
  ((splitAt (Char.ofNat 0) output.toList).filter fun name => !name.isEmpty).map String.ofList

def files (tool : Tool) (tree : Tree) (repo : Path) (commit : String) : Run (List String) := do
  let output ← call tool tree repo
    ["diff-tree", "-z", "--no-commit-id", "--name-only", "-r", commit]
  match namesOf output with
  | [] => return []
  | names =>
    let root ← root tool tree repo
    return names.map fun name => (root.join (Path.ofText name)).text

def change (tool : Tool) (tree : Tree) (repo : Path) (commit : String) : Run String :=
  call tool tree repo ["show", "--no-color", "--format=", commit]

end CommitRules.Git
