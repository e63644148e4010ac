import CommitRules.Text.Lines
import CommitRules.Text.Quoted

/-!
# CommitRules.Regex.Fault

Why a pattern is refused. Most faults have a place: the offset in the pattern at which reading
stopped, less what the fault concerns. `Fault.message` words them.
-/

namespace CommitRules.Regex

open CommitRules.Text

/-- What is wrong at some place of a pattern. -/
inductive Cause where
  | looseBackslash
  | badEscape (text : List Char)
  | incompleteEscape (text : List Char)
  | octalTooLarge (text : List Char)
  | undefinedCharName (name : List Char)
  | missing (what : String)
  | unterminatedName (mark : Char)
  | unterminatedGroup
  | unterminatedComment
  | unterminatedClass
  | unexpectedEnd
  | badRange (low high : List Char)
  | badBounds
  | nothingToRepeat
  | repeatedTwice
  /-- A construct that does not exist; `text` follows the parenthesis. -/
  | unknownExtension (text : List Char)
  | badGroupName (name : List Char)
  | unknownGroupName (name : List Char)
  | groupNameTaken (name : List Char) (new old : Nat)
  | badGroupNumber
  | noSuchGroup (index : Nat)
  /-- A reference to a group from inside it. -/
  | openGroup
  /-- A reference from inside a look-behind to a group of the same look-behind. -/
  | groupInsideBehind
  | tooManyBranches
  | flagsNotAtStart
  | unknownFlag
  | localeFlag
  | typeFlagsTogether
  | typeFlagOff
  | globalFlagOn
  | globalFlagOff
  | flagOnAndOff
  | unbalancedParenthesis
  deriving DecidableEq, Repr

/-- What a well-formed pattern asks for that matching does not offer. -/
inductive Limit where
  /-- A look-behind whose width varies. -/
  | variableBehind
  /-- A look-behind wider than a machine word counts. -/
  | distantBehind
  | templateRepeat (operator : String)
  deriving DecidableEq, Repr

/-- Why a pattern is refused. -/
inductive Fault where
  | malformed (cause : Cause) (offset : Nat)
  | unsupported (limit : Limit)
  /-- A repetition count that a machine word does not hold. -/
  | boundTooLarge
  /-- A repetition count with too many digits to be read. -/
  | numeralTooLong (digits : Nat)
  /-- The flags `a` and `u` are both set for the whole pattern. -/
  | asciiAndUnicode
  deriving DecidableEq, Repr

def Cause.message : Cause → String
  | .looseBackslash => "bad escape (end of pattern)"
  | .badEscape text => "bad escape " ++ String.ofList text
  | .incompleteEscape text => "incomplete escape " ++ String.ofList text
  | .octalTooLarge text =>
    "octal escape value " ++ String.ofList text ++ " outside of range 0-0o377"
  | .undefinedCharName name => "undefined character name " ++ String.ofList (quotedChars name)
  | .missing what => "missing " ++ what
  | .unterminatedName mark => "missing " ++ String.singleton mark ++ ", unterminated name"
  | .unterminatedGroup => "missing ), unterminated subpattern"
  | .unterminatedComment => "missing ), unterminated comment"
  | .unterminatedClass => "unterminated character set"
  | .unexpectedEnd => "unexpected end of pattern"
  | .badRange low high =>
    "bad character range " ++ String.ofList low ++ "-" ++ String.ofList high
  | .badBounds => "min repeat greater than max repeat"
  | .nothingToRepeat => "nothing to repeat"
  | .repeatedTwice => "multiple repeat"
  | .unknownExtension text => "unknown extension " ++ String.ofList text
  | .badGroupName name => "bad character in group name " ++ String.ofList (quotedChars name)
  | .unknownGroupName name => "unknown group name " ++ String.ofList (quotedChars name)
  | .groupNameTaken name new old =>
    "redefinition of group name " ++ String.ofList (quotedChars name) ++
      s!" as group {new}; was group {old}"
  | .badGroupNumber => "bad group number"
  | .noSuchGroup index => s!"invalid group reference {index}"
  | .openGroup => "cannot refer to an open group"
  | .groupInsideBehind => "cannot refer to group defined in the same lookbehind subpattern"
  | .tooManyBranches => "conditional backref with more than two branches"
  | .flagsNotAtStart => "global flags not at the start of the expression"
  | .unknownFlag => "unknown flag"
  | .localeFlag => "bad inline flags: cannot use 'L' flag with a str pattern"
  | .typeFlagsTogether => "bad inline flags: flags 'a', 'u' and 'L' are incompatible"
  | .typeFlagOff => "bad inline flags: cannot turn off flags 'a', 'u' and 'L'"
  | .globalFlagOn => "bad inline flags: cannot turn on global flag"
  | .globalFlagOff => "bad inline flags: cannot turn off global flag"
  | .flagOnAndOff => "bad inline flags: flag turned on and off"
  | .unbalancedParenthesis => "unbalanced parenthesis"

def Limit.message : Limit → String
  | .variableBehind => "look-behind requires fixed-width pattern"
  | .distantBehind => "looks too much behind"
  | .templateRepeat operator => "internal: unsupported template operator " ++ operator

/-- The longest numeral that is read, in digits. -/
def numeralLimit : Nat := 4300

def numeralTooLongMessage (digits : Nat) : String :=
  s!"Exceeds the limit ({numeralLimit} digits) for integer string conversion: value has " ++
    s!"{digits} digits; use sys.set_int_max_str_digits() to increase the limit"

/-- The wording of a fault of `pattern`. In a pattern of several lines the place is also given by
line and column. -/
def Fault.message (pattern : List Char) : Fault → String
  | .malformed cause offset =>
    let place := Position.ofOffset pattern offset
    let lines :=
      if pattern.contains '\n' then s!" (line {place.line}, column {place.column})" else ""
    cause.message ++ s!" at position {offset}" ++ lines
  | .unsupported limit => limit.message
  | .boundTooLarge => "the repetition number is too large"
  | .numeralTooLong digits => numeralTooLongMessage digits
  | .asciiAndUnicode => "ASCII and UNICODE flags are incompatible"

end CommitRules.Regex
