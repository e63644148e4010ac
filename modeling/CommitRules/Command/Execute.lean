import CommitRules.Check.Git
import CommitRules.Check.Session
import CommitRules.Command.Request
import CommitRules.Config.Load
import CommitRules.Config.Template
import CommitRules.Report.Render

/-!
# CommitRules.Command.Execute

Carrying out a request. What a command writes, the files it changes and how it ends are collected in
an `Ending`; a problem that is not dealt with on the way is kept for whoever started the command.
-/

namespace CommitRules.Command

open CommitRules.Files
open CommitRules.Text

structure World where
  tree : Tree
  git : Git.Tool
  now : Moment

structure Ending where
  output : String
  complaint : String
  status : Nat
  problem : Option Problem
  trace : List Event
  tree : Tree

namespace Ending

/-- A text written, without looks, and a line end behind it. -/
def line (text : String) : String := plain text ++ "\n"

def success (world : World) (text : String) : Ending :=
  ⟨line text, "", 0, none, [], world.tree⟩

/-- The command line is refused, or the command breaks off. -/
def broken (world : World) (problem : Problem) : Ending :=
  let status := match problem with
    | .usage _ => 2
    | .failure _ => 1
  ⟨"", "", status, some problem, [], world.tree⟩

end Ending

def badParameter (hint : Option String) (message : String) : Problem :=
  .usage (.badParameter hint message)

def readFormat (name : String) : Except Problem Format :=
  match Format.ofName? name with
  | some format => .ok format
  | none => .error (badParameter (some "--format") "format must be one of: human, json")

/-- Whether a failure says that some value cannot be used. -/
def isBadValue : Failure → Bool
  | .config _ | .noConfig | .badValue _ | .undecodable _ => true
  | _ => false

def isSystemFailure : Failure → Bool
  | .noFile _ | .system _ _ => true
  | _ => false

/-- The configuration to work with. One that cannot be used is the user's mistake. -/
def loadOrRefuse (tree : Tree) (repo : Path) (config : Option Path) : Except Problem Config :=
  match loadConfig tree repo config with
  | .ok config => .ok config
  | .error failure =>
    if isBadValue failure then .error (badParameter (some "config") failure.message)
    else .error (.failure failure)

/-! ## Checking a commit -/

/-- The run of a check: the root directory of the repository, and the rules applied to the files of
the commit. -/
def checkRun (world : World) (repo : Path) (commit : String) (config : Config) : Run Path := do
  let root ← Git.root world.git world.tree repo
  let files ← Git.files world.git world.tree repo commit
  let _ ← Session.start.check (Git.change world.git world.tree repo) commit
    ⟨world.tree, some root⟩ config.rules files
  return root

/-- The heading of a report to be read. -/
def title : String := "Scanva - Validation Tools"

def checkReport (world : World) (format : Format) (commit : String) (config : Config)
    (ledger : Ledger) (root : Path) : String :=
  match format with
  | .json =>
    Ending.line (ledger.summary.json
      ⟨ledger.rules, ledger.matched, commit, config.source, world.now, some root⟩)
  | .human =>
    Ending.line (styled [.bold] title) ++
      Ending.line (String.ofList (List.replicate title.length '-')) ++
      Ending.line (ledger.summary.text (some root))

def logText (trace : List Event) : String :=
  String.join ((trace.filterMap Event.record?).map (· ++ "\n"))

def runCheck (world : World) (commit : String) (repo : Path) (format : Format) (config : Config)
    (verbose : Bool) : Ending :=
  let run := checkRun world repo commit config
  let log := if verbose then logText run.trace else ""
  let ending := { Ending.success world "" with output := "", complaint := log, trace := run.trace }
  match run.outcome with
  | .ok root =>
    let ledger := Ledger.empty.noteAll run.trace
    { ending with
      output := checkReport world format commit config ledger root
      status := if ledger.summary.hasErrors then 1 else 0 }
  | .error (.git message) =>
    { ending with status := 2, problem := some (badParameter none message) }
  | .error failure =>
    if isSystemFailure failure then
      { ending with complaint := log ++ Ending.line ("Error: " ++ failure.message), status := 1 }
    else { ending with status := 1, problem := some (.failure failure) }

/-! ## Configurations -/

/-- A configuration to be read. -/
def configText (config : Config) : String :=
  let ruleLine (rule : Rule) : String :=
    "  - [" ++ rule.level.name ++ "] " ++ rule.label ++ " (files: " ++ rule.files.describe ++
      ", find: " ++ (rule.find.map Find.describe).getD "-" ++ s!", head: {rule.head})"
  "\n".intercalate
    (["Resolved configuration:", "- source: " ++ config.source.getD "None",
      s!"- rules: {config.rules.length}"] ++ config.rules.map ruleLine)

def runShow (world : World) (format : Format) (config : Config) : Ending :=
  match format with
  | .json => .success world (Json.write config.toValue)
  | .human => .success world (configText config)

/-- Tells that a configuration can be used. -/
def runValidate (world : World) (format : Format) (config : Config) : Ending :=
  let labels := config.rules.map Rule.label
  match format with
  | .json =>
    .success world (Json.write (.table [
      ("ok", .bool true), ("source", .ofText? config.source),
      ("rules", .list (labels.map .text))]))
  | .human =>
    .success world ("\n".intercalate
      ["Config is valid.", "- source: " ++ config.source.getD "None",
       "- rules: " ++ quotedList labels])

/-- Makes the directory with the given parts and all those above it, from the root on. The
directories made before a failure stay. -/
def makeDirectories (tree : Tree) (made : List String) : List String → Tree × Option Failure
  | [] => (tree, none)
  | part :: rest =>
    let parts := made ++ [part]
    let failure (error : SystemError) (more : List String) : Tree × Option Failure :=
      (tree, some (Tree.failure error ⟨.root, parts ++ more⟩))
    match tree.look ⟨.root, parts⟩ with
    | .ok .directory => makeDirectories tree parts rest
    | .ok (.file _) =>
      if rest.isEmpty then failure .alreadyExists [] else failure .notDirectory rest
    | .error .noEntry => makeDirectories (tree.put parts .directory) parts rest
    | .error error => failure error []

def writeTemplate (world : World) (out : Path) : Ending :=
  match makeDirectories world.tree [] out.parent.parts with
  | (tree, some failure) => { Ending.broken world (.failure failure) with tree }
  | (tree, none) =>
    let refused (error : SystemError) : Ending :=
      { Ending.broken world (.failure (Tree.failure error out)) with tree }
    let written : Ending :=
      { Ending.success world ("Wrote starter config: " ++ out.text) with
        tree := tree.put out.parts (.file (Utf8.encode configTemplate)) }
    match tree.look out with
    | .ok .directory => refused .isDirectory
    | .ok (.file _) => written
    | .error .noEntry => written
    | .error error => refused error

/-- Writes the configuration to start from, unless something would be lost. -/
def runInit (world : World) (out : Path) (force : Bool) : Ending :=
  let out := out.resolve world.tree.cwd
  match world.tree.exists? out with
  | .error failure => .broken world (.failure failure)
  | .ok found =>
    if found && !force then
      .broken world (badParameter none
        ("Refusing to overwrite existing file: " ++ out.text ++ ". Use --force to overwrite."))
    else writeTemplate world out

/-! ## Requests -/

/-- What can be asked for. -/
def helpText : String :=
  "Usage: scanva [--version] COMMAND [OPTIONS]\n\nCommands: " ++
    ", ".intercalate (CommandName.all.map CommandName.text)

/-- Carries out a command that needs a configuration, once its format and configuration are
known. -/
def withConfig (world : World) (repo : Path) (format : String) (config : Option Path)
    (carryOut : Format → Config → Ending) : Ending :=
  match readFormat format with
  | .error problem => .broken world problem
  | .ok format =>
    match loadOrRefuse world.tree repo config with
    | .error problem => .broken world problem
    | .ok config => carryOut format config

def execute (world : World) : Request → Ending
  | .help => .success world helpText
  | .version => .success world version
  | .check commit repo format config verbose =>
    withConfig world repo format config fun format config =>
      runCheck world commit repo format config verbose
  | .showConfig repo format config => withConfig world repo format config (runShow world)
  | .initConfig out force => runInit world out force
  | .validateConfig repo format config => withConfig world repo format config (runValidate world)

def runLine (world : World) (line : List String) : Ending :=
  match readRequest line with
  | .error problem => .broken world problem
  | .ok request => execute world request

end CommitRules.Command
