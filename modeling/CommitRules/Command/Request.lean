import CommitRules.Command.Options
import CommitRules.Files.Path
import CommitRules.Text.Letter

/-!
# CommitRules.Command.Request

What a command line asks for. The options of the program come first, then the name of a command,
then the options of the command, among which no other arguments may stand.
-/

namespace CommitRules.Command

open CommitRules.Files
open CommitRules.Text

/-- How a command writes its result. -/
inductive Format where
  | human
  | json
  deriving DecidableEq, Repr

/-- The format with a name, whatever its case. -/
def Format.ofName? (name : String) : Option Format :=
  match (name.map Char.toLower : String) with
  | "human" => some .human
  | "json" => some .json
  | _ => none

/-- What a command line asks for; formats are still as they were given. -/
inductive Request where
  | help
  | version
  | check (commit : String) (repo : Path) (format : String) (config : Option Path)
    (verbose : Bool)
  | showConfig (repo : Path) (format : String) (config : Option Path)
  | initConfig (out : Path) (force : Bool)
  | validateConfig (repo : Path) (format : String) (config : Option Path)
  deriving DecidableEq, Repr

/-- Why a command line is not carried out, or not to its end. -/
inductive Problem where
  | usage (error : UsageError)
  | failure (failure : Failure)
  deriving DecidableEq, Repr

def Problem.message : Problem → String
  | .usage error => error.message
  | .failure reason => reason.message

inductive CommandName where
  | check
  | config
  | configInit
  | configValidate
  deriving DecidableEq, Repr

namespace CommandName

def all : List CommandName := [.check, .config, .configInit, .configValidate]

def text : CommandName → String
  | .check => "check"
  | .config => "config"
  | .configInit => "config-init"
  | .configValidate => "config-validate"

def ofText? (name : String) : Option CommandName := all.find? fun command => command.text == name

def options : CommandName → List OptionSpec
  | .check =>
    [.valued ["--commit", "-c"], .valued ["--repo"], .valued ["--format"], .valued ["--config"],
     .flag ["--verbose", "-v"], .flag ["--help"]]
  | .config => [.valued ["--repo"], .valued ["--format"], .valued ["--config"], .flag ["--help"]]
  | .configInit => [.valued ["--out"], .flag ["--force"], .flag ["--help"]]
  | .configValidate =>
    [.valued ["--repo"], .valued ["--config"], .valued ["--format"], .flag ["--help"]]

/-- The options of a command whose values are paths. -/
def pathOptions : CommandName → List String
  | .configInit => ["--out"]
  | _ => ["--repo", "--config"]

end CommandName

def programOptions : List OptionSpec :=
  [.flag ["--version"], .flag ["--install-completion"], .flag ["--show-completion"],
   .flag ["--help"]]

/-- The path an option gives, or else another one. -/
def pathOption (arguments : Arguments) (key default : String) : Path :=
  Path.ofText ((arguments.value? key).getD default)

def requestOf (command : CommandName) (arguments : Arguments) : Request :=
  let repo := pathOption arguments "--repo" "."
  let format := (arguments.value? "--format").getD "human"
  let config := (arguments.value? "--config").map Path.ofText
  match command with
  | .check =>
    .check ((arguments.value? "--commit").getD "HEAD") repo format config
      (arguments.has "--verbose")
  | .config => .showConfig repo format config
  | .configInit =>
    .initConfig (pathOption arguments "--out" "scanva.toml") (arguments.has "--force")
  | .configValidate => .validateConfig repo format config

/-- The refusal of arguments nobody asked for. -/
def extraArguments (others : List String) : UsageError :=
  .usage ("Got unexpected extra argument" ++ (if others.length = 1 then "" else "s") ++ " (" ++
    " ".intercalate others ++ ")")

/-- Whether one of the paths among the options holds a NUL. -/
def hasBadPath (command : CommandName) (arguments : Arguments) : Bool :=
  command.pathOptions.any fun key =>
    (arguments.value? key).any fun value => value.toList.contains (Char.ofNat 0)

def readCommand (command : CommandName) (rest : List String) : Except Problem Request :=
  match readArguments command.options true rest with
  | .error error => .error (.usage error)
  | .ok arguments =>
    if arguments.has "--help" then .ok .help
    else if hasBadPath command arguments then .error (.failure .embeddedNul)
    else if !arguments.others.isEmpty then .error (.usage (extraArguments arguments.others))
    else .ok (requestOf command arguments)

/-- Whether a name starts like an option: with something other than a letter or a digit. -/
def startsLikeOption (name : String) : Bool :=
  match name.toList with
  | [] => false
  | c :: _ => !(isWordChar c.toNat && c ≠ '_')

def readRequest (line : List String) : Except Problem Request :=
  if line.isEmpty then .ok .help
  else
    match readArguments programOptions false line with
    | .error error => .error (.usage error)
    | .ok arguments =>
      if arguments.has "--help" then .ok .help
      else if arguments.has "--version" then .ok .version
      else
        match arguments.others with
        | [] => .error (.usage (.usage "Missing command."))
        | name :: rest =>
          match CommandName.ofText? name with
          | some command => readCommand command rest
          | none =>
            if startsLikeOption name then .ok .help
            else .error (.usage (.usage ("No such command " ++ quoted name ++ ".")))

end CommitRules.Command
