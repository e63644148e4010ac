import CommitRules.Regex.Escape
import CommitRules.Toml.Stop

/-!
# CommitRules.Toml.Lexical

The small parts of a TOML document: white space and comments, texts in quotation marks and in
apostrophes, and keys.
-/

namespace CommitRules.Toml

open CommitRules.Text

def isSpace (c : Char) : Bool := c = ' ' || c = '\t'

def isSpaceOrLineEnd (c : Char) : Bool := isSpace c || c = '\n'

def isControl (c : Char) : Bool := (c.toNat < 32 && c ≠ '\t') || c.toNat = 127

/-- Control characters other than the tab and the line feed. -/
def isControlInLines (c : Char) : Bool := isControl c && c ≠ '\n'

def skipSpace (text : List Char) : List Char := text.dropWhile isSpace

/-- Refuses the first character of `text` with a property, if it has one; `rest` follows it. -/
def checkNone (isBad : Char → Bool) : List Char → List Char → Except Stop Unit
  | [], _ => .ok ()
  | c :: text, rest =>
    if isBad c then refuse (c :: text ++ rest) (.invalidCharacter c) else checkNone isBad text rest

/-- Skips a comment, if one starts here, up to the end of its line. -/
def skipComment (text : List Char) : Except Stop (List Char) :=
  match text with
  | '#' :: text => do
    let comment := text.takeWhile (· ≠ '\n')
    let rest := text.dropWhile (· ≠ '\n')
    checkNone isControl comment rest
    return rest
  | text => .ok text

/-- Skips blanks, line ends and comments; `fuel` bounds the number of comments. -/
def skipFiller : Nat → List Char → Except Stop (List Char)
  | 0, text => .ok text
  | fuel + 1, text => do
    let rest ← skipComment (text.dropWhile isSpaceOrLineEnd)
    if rest.length = text.length then return rest
    skipFiller fuel rest

/-! ## Texts in apostrophes -/

/-- Reads a text behind the apostrophe that opens it. -/
def readPlain (text : List Char) : Except Stop (String × List Char) := do
  let inside := text.takeWhile (· ≠ apostrophe)
  match text.dropWhile (· ≠ apostrophe) with
  | [] => refuse [] (.expected "'")
  | mark :: rest =>
    checkNone isControl inside (mark :: rest)
    return (String.ofList inside, rest)

/-- Splits a text at the first three apostrophes. -/
def splitAtTriple : List Char → Option (List Char × List Char)
  | [] => none
  | c :: rest =>
    if c = apostrophe && rest.take 2 = [apostrophe, apostrophe] then some ([], rest.drop 2)
    else (splitAtTriple rest).map fun (inside, after) => (c :: inside, after)

/-- One or two marks directly behind three closing ones belong to the text. -/
def extraMarks (mark : Char) (text : List Char) : List Char × List Char :=
  match text with
  | c :: d :: rest =>
    if c = mark && d = mark then ([mark, mark], rest)
    else if c = mark then ([mark], d :: rest)
    else ([], text)
  | [c] => if c = mark then ([mark], []) else ([], text)
  | [] => ([], [])

/-- A line end directly behind three opening marks does not count. -/
def dropLineEnd : List Char → List Char
  | '\n' :: rest => rest
  | text => text

/-- Reads a text of several lines behind the three apostrophes that open it. -/
def readPlainLines (text : List Char) : Except Stop (String × List Char) := do
  match splitAtTriple (dropLineEnd text) with
  | none => refuse [] (.expected "'''")
  | some (inside, after) =>
    checkNone isControlInLines inside (apostrophe :: apostrophe :: apostrophe :: after)
    let (marks, rest) := extraMarks apostrophe after
    return (String.ofList (inside ++ marks), rest)

/-! ## Texts in quotation marks -/

/-- Where a reader of a text in quotation marks stands. -/
inductive Inside where
  | plain
  /-- So many characters of an escape are still to come. -/
  | skipping (count : Nat)
  /-- A backslash and a blank have been read: blanks may follow, then the line must end. -/
  | seekingLineEnd
  /-- A line has been joined to the next one: blanks and line ends do not count. -/
  | joining
  deriving DecidableEq, Repr

def simpleEscape? (c : Char) : Option Char :=
  match c with
  | 'b' => some (Char.ofNat 8)
  | 't' => some '\t'
  | 'n' => some '\n'
  | 'f' => some (Char.ofNat 12)
  | 'r' => some '\r'
  | c => if c = quotationMark || c = backslash then some c else none

/-- The number of hexadecimal digits an escape takes. -/
def hexEscape? (c : Char) : Option Nat :=
  match c with
  | 'u' => some 4
  | 'U' => some 8
  | _ => none

/-- The character that hexadecimal digits at the start of a text stand for. -/
def hexChar (count : Nat) (text : List Char) : Except Stop Char :=
  let digits := text.take count
  let code := hexNumber digits
  if digits.length < count || !digits.all Regex.isHexDigit then refuse text .badHexCode
  else if 0x10FFFF < code || (0xD800 ≤ code && code ≤ 0xDFFF) then
    refuse (text.drop count) .notScalar
  else .ok (Char.ofNat code)

/-- Reads a text in quotation marks, in several lines or in one. `taken` holds what has been read,
last character first. -/
def readQuotedFrom (several : Bool) (inside : Inside) (taken : List Char) :
    List Char → Except Stop (List Char × List Char)
  | [] => refuse [] .openText
  | c :: rest =>
    match inside with
    | .skipping (count + 1) => readQuotedFrom several (.skipping count) taken rest
    | .seekingLineEnd =>
      if isSpace c then readQuotedFrom several .seekingLineEnd taken rest
      else if c = '\n' then readQuotedFrom several .joining taken rest
      else refuse (c :: rest) .badEscape
    | _ =>
      if inside = .joining && isSpaceOrLineEnd c then readQuotedFrom several .joining taken rest
      else if c = quotationMark then
        if !several then .ok (taken.reverse, rest)
        else if rest.take 2 = [quotationMark, quotationMark] then .ok (taken.reverse, rest.drop 2)
        else readQuotedFrom several .plain (c :: taken) rest
      else if c = backslash then
        match rest with
        | [] => refuse [] .badEscape
        | d :: after =>
          if several && d = '\n' then readQuotedFrom several .joining taken (d :: after)
          else if several && isSpace d then
            readQuotedFrom several .seekingLineEnd taken (d :: after)
          else
            match hexEscape? d with
            | some count => do
              let e ← hexChar count after
              readQuotedFrom several (.skipping (count + 1)) (e :: taken) (d :: after)
            | none =>
              match simpleEscape? d with
              | some e => readQuotedFrom several (.skipping 1) (e :: taken) (d :: after)
              | none => refuse after .badEscape
      else if isControl c && !(several && c = '\n') then
        refuse (c :: rest) (.illegalInText c)
      else readQuotedFrom several .plain (c :: taken) rest

/-- Reads a text behind the quotation mark that opens it. -/
def readQuoted (text : List Char) : Except Stop (String × List Char) := do
  let (inside, rest) ← readQuotedFrom false .plain [] text
  return (String.ofList inside, rest)

/-- Reads a text of several lines behind the three quotation marks that open it. -/
def readQuotedLines (text : List Char) : Except Stop (String × List Char) := do
  let (inside, after) ← readQuotedFrom true .plain [] (dropLineEnd text)
  let (marks, rest) := extraMarks quotationMark after
  return (String.ofList (inside ++ marks), rest)

/-! ## Keys -/

def isKeyChar (c : Char) : Bool :=
  Regex.isAsciiLetter c || Regex.isAsciiDigit c || c = '-' || c = '_'

def startsKey (c : Char) : Bool := isKeyChar c || c = quotationMark || c = apostrophe

def readKeyPart (text : List Char) : Except Stop (String × List Char) :=
  match text with
  | [] => refuse [] .badKey
  | c :: rest =>
    if isKeyChar c then
      .ok (String.ofList (text.takeWhile isKeyChar), text.dropWhile isKeyChar)
    else if c = apostrophe then readPlain rest
    else if c = quotationMark then readQuoted rest
    else refuse text .badKey

/-- Reads a key with parts between dots, and the blanks behind it; `fuel` bounds the number of
parts. -/
def readKey : Nat → List Char → Except Stop (List String × List Char)
  | 0, text => refuse text .badKey
  | fuel + 1, text => do
    let (part, rest) ← readKeyPart text
    match skipSpace rest with
    | '.' :: rest => do
      let (parts, rest) ← readKey fuel (skipSpace rest)
      return (part :: parts, rest)
    | rest => return ([part], rest)

end CommitRules.Toml
