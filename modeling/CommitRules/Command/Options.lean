import CommitRules.Command.Similar
import CommitRules.Failure

/-!
# CommitRules.Command.Options

Command lines. An option has long names of two hyphens and a word, short ones of a hyphen and a
letter, or both. A value follows its option, or stands behind an equals sign or directly behind the
letter; letters of options without values may be joined. Two hyphens alone end the options.
-/

namespace CommitRules.Command

open CommitRules.Text

inductive UsageError where
  /-- A value that a parameter does not take; `hint` names the parameter. -/
  | badParameter (hint : Option String) (message : String)
  | usage (message : String)
  /-- An option that does not exist, and some that resemble it. -/
  | noSuchOption (name : String) (similar : List String)
  /-- A value is missing, or there is one too many. -/
  | badOption (message : String)
  deriving DecidableEq, Repr

def UsageError.message : UsageError → String
  | .badParameter (some hint) message => "Invalid value for " ++ hint ++ ": " ++ message
  | .badParameter none message => "Invalid value: " ++ message
  | .usage message => message
  | .noSuchOption name [] => "No such option: " ++ name
  | .noSuchOption name [other] =>
    "No such option: " ++ name ++ " Did you mean " ++ other ++ "?"
  | .noSuchOption name others =>
    "No such option: " ++ name ++ " (Possible options: " ++ ", ".intercalate others ++ ")"
  | .badOption message => message

structure OptionSpec where
  /-- The name the option is asked for by. -/
  key : String
  names : List String
  takesValue : Bool
  deriving DecidableEq, Repr

namespace OptionSpec

def valued (names : List String) : OptionSpec := ⟨names.headD "", names, true⟩

def flag (names : List String) : OptionSpec := ⟨names.headD "", names, false⟩

end OptionSpec

/-- Whether a name is a hyphen and a letter. -/
def isShort (name : String) : Bool := name.length = 2

def named? (specs : List OptionSpec) (name : String) : Option OptionSpec :=
  specs.find? fun spec => spec.names.contains name

def longNames (specs : List OptionSpec) : List String :=
  specs.flatMap fun spec => spec.names.filter fun name => !isShort name

/-- Options with their values, in the order given, and the other arguments. -/
structure Arguments where
  options : List (String × String)
  others : List String
  deriving DecidableEq, Repr

namespace Arguments

/-- One more option in front. -/
def withOption (arguments : Arguments) (key value : String) : Arguments :=
  { arguments with options := (key, value) :: arguments.options }

/-- More options in front. -/
def withFlags (arguments : Arguments) (keys : List String) : Arguments :=
  { arguments with options := keys.map (fun key => (key, "")) ++ arguments.options }

/-- The value of an option; the last one given counts. -/
def value? (arguments : Arguments) (key : String) : Option String :=
  arguments.options.reverse.lookup key

def has (arguments : Arguments) (key : String) : Bool := (arguments.value? key).isSome

end Arguments

/-- What an argument that starts with a hyphen amounts to. -/
inductive Reading where
  | flags (keys : List String)
  /-- Options without values, and then one with its value. -/
  | full (keys : List String) (key value : String)
  /-- Options without values, and then one whose value must follow; `name` is how it was given. -/
  | wanting (keys : List String) (key name : String)
  deriving DecidableEq, Repr

def readLetters (specs : List OptionSpec) : List Char → Except UsageError Reading
  | [] => .ok (.flags [])
  | c :: rest =>
    let name := String.ofList ['-', c]
    match named? specs name with
    | none => .error (.noSuchOption name [])
    | some spec =>
      if spec.takesValue then
        if rest.isEmpty then .ok (.wanting [] spec.key name)
        else .ok (.full [] spec.key (String.ofList rest))
      else
        match readLetters specs rest with
        | .error error => .error error
        | .ok (.flags keys) => .ok (.flags (spec.key :: keys))
        | .ok (.full keys key value) => .ok (.full (spec.key :: keys) key value)
        | .ok (.wanting keys key name) => .ok (.wanting (spec.key :: keys) key name)

def splitEquals (text : List Char) : List Char × Option (List Char) :=
  match text.dropWhile (· ≠ '=') with
  | [] => (text, none)
  | _ :: value => (text.takeWhile (· ≠ '='), some value)

def readOption (specs : List OptionSpec) (argument : List Char) : Except UsageError Reading :=
  let (name, value) := splitEquals argument
  let name := String.ofList name
  let found := if isShort name then none else named? specs name
  match found, value with
  | some spec, none =>
    if spec.takesValue then .ok (.wanting [] spec.key name) else .ok (.flags [spec.key])
  | some spec, some value =>
    if spec.takesValue then .ok (.full [] spec.key (String.ofList value))
    else .error (.badOption ("Option " ++ quoted name ++ " does not take a value."))
  | none, _ =>
    match argument with
    | '-' :: '-' :: _ => .error (.noSuchOption name (similar name (longNames specs)))
    | _ => readLetters specs (argument.drop 1)

/-- Whether an argument starts with a hyphen and goes on. -/
def looksLikeOption : List Char → Bool
  | '-' :: _ :: _ => true
  | _ => false

/-- Reads arguments. Unless `mixed`, the first one that is not an option ends the options. -/
def readArguments (specs : List OptionSpec) (mixed : Bool) :
    List String → Except UsageError Arguments
  | [] => .ok ⟨[], []⟩
  | argument :: rest =>
    if argument = "--" then .ok ⟨[], rest⟩
    else if !looksLikeOption argument.toList then
      if mixed then do
        let arguments ← readArguments specs mixed rest
        return { arguments with others := argument :: arguments.others }
      else .ok ⟨[], argument :: rest⟩
    else
      match readOption specs argument.toList with
      | .error error => .error error
      | .ok (.flags keys) => do
        return (← readArguments specs mixed rest).withFlags keys
      | .ok (.full keys key value) => do
        return ((← readArguments specs mixed rest).withOption key value).withFlags keys
      | .ok (.wanting keys key name) =>
        match rest with
        | [] => .error (.badOption ("Option " ++ quoted name ++ " requires an argument."))
        | value :: rest => do
          return ((← readArguments specs mixed rest).withOption key value).withFlags keys

end CommitRules.Command
