import CommitRules.Failure
import CommitRules.Regex.Matcher
import CommitRules.Regex.Reader

/-!
# CommitRules.Find

What a rule looks for in a text: a literal, any of several literals, or a regular expression. An
empty text holds nothing, not even the empty literal.
-/

namespace CommitRules

open CommitRules.Text

/-- A regular expression: its source, the flags in force for all of it, and what it means. -/
structure RegexPattern where
  source : String
  options : Regex.Options
  node : Regex.Node
  deriving DecidableEq, Repr

namespace RegexPattern

/-- Turns on the flag of one letter. -/
def addLetter (options : Regex.Options) (letter : Char) : Except Failure Regex.Options :=
  match letter with
  | 'i' => .ok { options with ignoreCase := true }
  | 'm' => .ok { options with multiLine := true }
  | 's' => .ok { options with dotAll := true }
  | 'x' => .ok { options with verbose := true }
  | c =>
    .error (.badValue
      ("unknown regex flag " ++ quoted (String.singleton c) ++ "; expected any of: i, m, s, x"))

/-- A fault of a pattern as a failure: only what the pattern itself says wrong is its own kind. -/
def failureOf (source : String) (fault : Regex.Fault) : Failure :=
  let message := fault.message source.toList
  match fault with
  | .malformed _ _ | .unsupported _ => .badPattern message
  | .boundTooLarge => .tooLarge message
  | .numeralTooLong _ | .asciiAndUnicode => .badValue message

/-- Reads an expression with flag letters given beside it. -/
def ofSource (source flags : String) : Except Failure RegexPattern := do
  let options ← flags.toList.foldlM addLetter Regex.Options.none
  match Regex.readPattern options source.toList with
  | .ok (node, options) => return ⟨source, options, node⟩
  | .error fault => .error (failureOf source fault)

def flagLetters (pattern : RegexPattern) : String := String.ofList pattern.options.letters

/-- The expression between slashes and its flags. -/
def describe (pattern : RegexPattern) : String :=
  "/" ++ pattern.source ++ "/" ++ pattern.flagLetters

/-- Whether the expression matches some part of a text. -/
def occursIn (pattern : RegexPattern) (text : List Char) : Bool := pattern.node.occursIn text

end RegexPattern

inductive Find where
  | literal (text : String)
  | anyOf (options : List String)
  | regex (pattern : RegexPattern)
  deriving DecidableEq, Repr

/-- Holds when `needle` stands somewhere in a text. -/
def occursIn (needle : List Char) : List Char → Bool
  | [] => needle.isEmpty
  | c :: rest => needle.isPrefixOf (c :: rest) || occursIn needle rest

namespace Find

/-- How reports name what is looked for. -/
def describe : Find → String
  | .literal text => text
  | .anyOf options => " | ".intercalate options
  | .regex pattern => pattern.describe

/-- Whether a text, if not empty, holds what is looked for. -/
def isIn (find : Find) (text : List Char) : Bool :=
  !text.isEmpty &&
    match find with
    | .literal needle => CommitRules.occursIn needle.toList text
    | .anyOf needles => needles.any fun needle => CommitRules.occursIn needle.toList text
    | .regex pattern => pattern.occursIn text

end Find

end CommitRules
