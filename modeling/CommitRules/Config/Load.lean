import CommitRules.Config.Read
import CommitRules.Files.Tree
import CommitRules.Toml.Document

/-!
# CommitRules.Config.Load

Finding the configuration of a repository. A path given for it wins; otherwise the first of the
configuration files that is there counts, or the section a project file has for this program.
-/

namespace CommitRules

open CommitRules.Files

/-- The files that hold nothing but a configuration, the first one first. -/
def configNames : List String := ["scanva.toml", ".scanva.toml"]

/-- The project file, which may hold a configuration among other things. -/
def projectName : String := "pyproject.toml"

/-- The section of a document that holds a configuration. -/
def toolSection? (document : Table) : Option Table :=
  match document.lookup "tool" with
  | some (.table tools) =>
    match tools.lookup "scanva" with
    | some (.table found) => some found
    | _ => none
  | _ => none

def loadDocument (tree : Tree) (path : Path) : Except Failure Table := do
  match ← Toml.readBytes (← tree.read path) with
  | .ok document => return document
  | .error message => refuseConfig ("Invalid TOML in " ++ path.text ++ ": " ++ message)

/-- The configuration in a document: its section, or else the whole of it unless it is that of a
project file. -/
def configPart (document : Table) (path : Path) : Table :=
  match toolSection? document with
  | some found => found
  | none => if path.name = projectName then [] else document

def loadFile (tree : Tree) (path : Path) : Except Failure Config := do
  readConfig (configPart (← loadDocument tree path) path) (some path.text)

/-- The configuration in the project file of a repository, if that has a section for it. -/
def loadProject (tree : Tree) (repo : Path) : Except Failure Config := do
  let path := repo.join (Path.ofText projectName)
  if !(← tree.exists? path) then .error .noConfig
  match toolSection? (← loadDocument tree path) with
  | some found => readConfig found (some path.text)
  | none => .error .noConfig

/-- The configuration in the first of several files that is there. -/
def loadFirst (tree : Tree) (repo : Path) : List String → Except Failure Config
  | [] => loadProject tree repo
  | name :: names => do
    let path := repo.join (Path.ofText name)
    if ← tree.exists? path then loadFile tree path else loadFirst tree repo names

/-- The configuration of a repository, or the one in the file at `explicit`, which is looked up
from there. -/
def loadConfig (tree : Tree) (repo : Path) (explicit : Option Path) : Except Failure Config := do
  if repo.hasNul then .error .embeddedNul
  let repo := repo.resolve tree.cwd
  match explicit with
  | none => loadFirst tree repo configNames
  | some explicit =>
    let path := repo.join explicit
    if !(← tree.exists? path) then
      refuseConfig ("Config file does not exist: " ++ path.text)
    loadFile tree path

/-- A path that no directory can have is refused before anything is looked for. -/
theorem loadConfig_of_hasNul {tree : Tree} {repo : Path} (h : repo.hasNul = true)
    (explicit : Option Path) : loadConfig tree repo explicit = .error .embeddedNul := by
  rw [loadConfig, if_pos h]
  rfl

end CommitRules
