import CommitRules.Failure
import CommitRules.Regex.Fault
import CommitRules.Text.Lines

/-!
# CommitRules.Toml.Stop

Where reading a TOML document stops and why. The place is kept as the number of characters that are
left, so that readers need not count; `Stop.message` turns it into a line and a column.
-/

namespace CommitRules.Toml

open CommitRules.Text

/-- What is wrong at some place of a document. -/
inductive Cause where
  | badStatement
  | noLineEnd
  | badKey
  | noEquals
  | noTableEnd
  | noArrayTableEnd
  | declaredTwice (key : List String)
  | namespaceRedefined (key : List String)
  | namespaceFixed (key : List String)
  | overwritten
  | duplicateKey (key : String)
  | openArray
  | openTable
  | openText
  | expected (mark : String)
  | badEscape
  | badHexCode
  | notScalar
  | illegalInText (c : Char)
  | invalidCharacter (c : Char)
  | badMoment
  | badValue
  deriving DecidableEq, Repr

def Cause.message : Cause → String
  | .badStatement => "Invalid statement"
  | .noLineEnd => "Expected newline or end of document after a statement"
  | .badKey => "Invalid initial character for a key part"
  | .noEquals => "Expected '=' after a key in a key/value pair"
  | .noTableEnd => "Expected ']' at the end of a table declaration"
  | .noArrayTableEnd => "Expected ']]' at the end of an array declaration"
  | .declaredTwice key => "Cannot declare " ++ quotedTuple key ++ " twice"
  | .namespaceRedefined key => "Cannot redefine namespace " ++ quotedTuple key
  | .namespaceFixed key => "Cannot mutate immutable namespace " ++ quotedTuple key
  | .overwritten => "Cannot overwrite a value"
  | .duplicateKey key => "Duplicate inline table key " ++ quoted key
  | .openArray => "Unclosed array"
  | .openTable => "Unclosed inline table"
  | .openText => "Unterminated string"
  | .expected mark => "Expected " ++ quoted mark
  | .badEscape => "Unescaped '\\' in a string"
  | .badHexCode => "Invalid hex value"
  | .notScalar => "Escaped character is not a Unicode scalar value"
  | .illegalInText c => "Illegal character " ++ quoted (String.singleton c)
  | .invalidCharacter c => "Found invalid character " ++ quoted (String.singleton c)
  | .badMoment => "Invalid date or datetime"
  | .badValue => "Invalid value"

inductive Stop where
  /-- The document is wrong where `left` characters of it are left. -/
  | refused (cause : Cause) (left : Nat)
  | numeralTooLong (digits : Nat)
  deriving DecidableEq, Repr

/-- Refuses a document in front of `rest`. -/
def refuse {α : Type} (rest : List Char) (cause : Cause) : Except Stop α :=
  .error (.refused cause rest.length)

/-- The wording of a place in a document. -/
def placeMessage (document : List Char) (left : Nat) : String :=
  if left = 0 then "end of document"
  else
    let place := Position.ofOffset document (document.length - left)
    s!"line {place.line}, column {place.column}"

def Stop.message (document : List Char) : Stop → String
  | .refused cause left => cause.message ++ " (at " ++ placeMessage document left ++ ")"
  | .numeralTooLong digits => Regex.numeralTooLongMessage digits

end CommitRules.Toml
