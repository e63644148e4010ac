import CommitRules.Command.Execute
import Std.Time.DateTime.PlainDateTime
import Std.Time.DateTime.Timestamp

/-!
# CommitRules.Main

The program. It reads the files under the working directory and those that arguments name, carries
out the command line, and writes what has changed. Git is not started from here: its answers are
read from the directory that the environment variable `SCANVA_GIT` names, where a file stands for
each of the subcommands `rev-parse`, `diff-tree` and `show`. Without that variable there is no git.
-/

open CommitRules CommitRules.Files CommitRules.Command

namespace CommitRules.Program

/-- The file or directory at a place below the root, and all that lies in it but for the data of
git. -/
partial def entriesAt (place : IO.FS.DirEntry) : IO (List (List String × Entry)) := do
  let parts := Path.partsOf place.path.toString.toList
  match (← place.path.metadata).type with
  | .dir =>
    let places := (← place.path.readDir).toList.filter fun place => place.fileName != ".git"
    let inside ← places.mapM entriesAt
    return (parts, .directory) :: inside.flatten
  | .file => return [(parts, .file (← IO.FS.readBinFile place.path).toList)]
  | _ => return []

/-- The places that a command line may name, as paths from the root. -/
def namedPlaces (cwd : List String) (line : List String) : List Path :=
  line.map fun argument =>
    let value := (argument.toList.dropWhile (· ≠ '=')).drop 1
    Path.resolve cwd (Path.ofText (if value.isEmpty then argument else String.ofList value))

/-- Adds the entries at a place that is not in the tree yet, if there is something. -/
def addPlace (tree : Tree) (place : Path) : IO Tree := do
  if (tree.entry? place.parts).isSome then return tree
  try
    let found ← entriesAt ⟨place.parent.text, place.name⟩
    let tree := tree.put place.parent.parts .directory
    return { tree with entries := tree.entries ++ found }
  catch _ => return tree

/-- The files that a command line can be about. -/
def readTree (line : List String) : IO Tree := do
  let cwd := Path.partsOf (← IO.currentDir).toString.toList
  let here : Path := ⟨.root, cwd⟩
  (here :: namedPlaces cwd line).foldlM addPlace ⟨[], cwd⟩

/-- Git, as far as its answers are known. -/
def readGit : IO Git.Tool := do
  match ← IO.getEnv "SCANVA_GIT" with
  | none => return none
  | some directory =>
    let replies ← ["rev-parse", "diff-tree", "show"].filterMapM fun name => do
      let place : IO.FS.DirEntry := ⟨directory, name⟩
      try return some (name, (← IO.FS.readBinFile place.path).toList)
      catch _ => return none
    return some fun arguments =>
      match arguments.head?.bind fun name => replies.lookup name with
      | some output => ⟨output, [], 0⟩
      | none => ⟨[], Text.Utf8.encode "fatal: not a git repository\n", 128⟩

/-- The present moment. -/
def readClock : IO Moment := do
  let now := (← Std.Time.Timestamp.now).toNanosecondsSinceUnixEpoch
  let civil := Std.Time.PlainDateTime.ofWallTime (.ofNanoseconds now)
  return {
    year := civil.date.year.toInt.toNat
    month := civil.date.month.val.toNat
    day := civil.date.day.val.toNat
    hour := civil.time.hour.val.toNat
    minute := civil.time.minute.val.toNat
    second := civil.time.second.val.toNat }

/-- Writes the entries that have been added to a tree or changed in it. -/
def writeChanges (before after : Tree) : IO Unit :=
  for (parts, entry) in after.entries do
    if before.entry? parts != some entry then
      let place : Path := ⟨.root, parts⟩
      match entry with
      | .directory => IO.FS.createDirAll place.text
      | .file bytes =>
        IO.FS.createDirAll place.parent.text
        IO.FS.writeBinFile place.text ⟨bytes.toArray⟩

end CommitRules.Program

open CommitRules.Program in
def main (line : List String) : IO UInt32 := do
  let tree ← readTree line
  let ending := runLine ⟨tree, ← readGit, ← readClock⟩ line
  writeChanges tree ending.tree
  IO.print ending.output
  IO.eprint ending.complaint
  match ending.problem with
  | some problem => IO.eprintln ("Error: " ++ problem.message)
  | none => pure ()
  return UInt32.ofNat ending.status
