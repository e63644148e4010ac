import CommitRules.Text.Printable

/-!
# CommitRules.Text.Quoted

The quoted form in which messages show a text. Apostrophes enclose it, or quotation marks when it
holds an apostrophe and no quotation mark; what has no shape of its own is written as an escape of
two, four or eight hexadecimal digits.
-/

namespace CommitRules.Text

/-- The lower-case hexadecimal digit of a value below 16. -/
def hexChar (n : Nat) : Char := Char.ofNat (if n < 10 then 48 + n else 87 + n)

/-- The last `width` hexadecimal digits of `n`, with leading zeros. -/
def hexDigits : Nat → Nat → List Char
  | 0, _ => []
  | width + 1, n => hexDigits width (n / 16) ++ [hexChar (n % 16)]

/-- The quotation mark, as a character. -/
def quotationMark : Char := Char.ofNat 34

/-- The apostrophe, as a character. -/
def apostrophe : Char := Char.ofNat 39

/-- The backslash, as a character. -/
def backslash : Char := Char.ofNat 92

/-- The mark that encloses the quoted form of `text`. -/
def quoteMark (text : List Char) : Char :=
  if text.contains apostrophe && !text.contains quotationMark then quotationMark else apostrophe

/-- One character inside quotes made of `mark`. -/
def quoteChar (mark c : Char) : List Char :=
  if c = mark || c = backslash then [backslash, c]
  else if c = '\t' then [backslash, 't']
  else if c = '\n' then [backslash, 'n']
  else if c = '\r' then [backslash, 'r']
  else if isPrintable c.toNat then [c]
  else if c.toNat < 0x100 then backslash :: 'x' :: hexDigits 2 c.toNat
  else if c.toNat < 0x10000 then backslash :: 'u' :: hexDigits 4 c.toNat
  else backslash :: 'U' :: hexDigits 8 c.toNat

/-- The quoted form of a text. -/
def quotedChars (text : List Char) : List Char :=
  let mark := quoteMark text
  mark :: text.flatMap (quoteChar mark) ++ [mark]

/-- The quoted form of a text. -/
def quoted (text : String) : String := String.ofList (quotedChars text.toList)

/-- The quoted forms of several texts, in brackets. -/
def quotedList (texts : List String) : String :=
  "[" ++ ", ".intercalate (texts.map quoted) ++ "]"

/-- The quoted forms of the parts of a key, in parentheses; a single part is followed by a comma. -/
def quotedTuple : List String → String
  | [] => "()"
  | [part] => "(" ++ quoted part ++ ",)"
  | parts => "(" ++ ", ".intercalate (parts.map quoted) ++ ")"

end CommitRules.Text
