import CommitRules.Find
import CommitRules.Value

/-!
# CommitRules.Rule

The rules of a configuration. A rule names files, tells which of them it concerns by what stands at
their head, and flags them if the change under check holds what it searches for.
-/

namespace CommitRules

inductive Level where
  | error
  | warning
  | info
  deriving DecidableEq, Repr

namespace Level

/-- Every level, the most severe first. -/
def all : List Level := [.error, .warning, .info]

def name : Level → String
  | .error => "error"
  | .warning => "warning"
  | .info => "info"

def ofName? (name : String) : Option Level := all.find? fun level => level.name == name

end Level

/-- The files a rule is about. -/
inductive FileScope where
  | all
  | one (glob : String)
  | several (globs : List String)
  deriving DecidableEq, Repr

namespace FileScope

/-- The globs to be applied, if any are: an empty text or list leaves all files in. -/
def active? : FileScope → Option (List String)
  | .all => none
  | .one glob => if glob.isEmpty then none else some [glob]
  | .several globs => if globs.isEmpty then none else some globs

/-- How reports show the files a rule is about. -/
def describe : FileScope → String
  | .all => "*"
  | .one glob => glob
  | .several globs => ", ".intercalate globs

def toValue : FileScope → Value
  | .all => .null
  | .one glob => .text glob
  | .several globs => .list (globs.map .text)

end FileScope

/-- The number of lines at the head of a file that count unless a rule says otherwise. -/
def defaultHead : Nat := 10

structure Rule where
  label : String
  level : Level
  files : FileScope
  find : Option Find
  head : Nat
  deriving DecidableEq, Repr

def Find.toValue : Find → Value
  | .literal text => .text text
  | .anyOf options => .list (options.map .text)
  | .regex pattern =>
    .table [("regex", .text pattern.source), ("flags", .text pattern.flagLetters)]

namespace Rule

/-- What the change under check is searched for: the label if nothing else is given. -/
def search (rule : Rule) : Find := rule.find.getD (.literal rule.label)

def toValue (rule : Rule) : Value :=
  .table [
    ("pattern", .text rule.label),
    ("level", .text rule.level.name),
    ("files", rule.files.toValue),
    ("find", (rule.find.map Find.toValue).getD .null),
    ("head", .int rule.head)]

end Rule

/-- The rules to be checked, and the file they come from if there is one. -/
structure Config where
  rules : List Rule
  source : Option String
  deriving DecidableEq, Repr

def Value.ofText? (text : Option String) : Value := (text.map .text).getD .null

def Config.toValue (config : Config) : Value :=
  .table [
    ("rules", .list (config.rules.map Rule.toValue)),
    ("source", .ofText? config.source)]

end CommitRules
