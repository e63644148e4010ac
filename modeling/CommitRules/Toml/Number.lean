import CommitRules.Toml.Lexical
import CommitRules.Value

/-!
# CommitRules.Toml.Number

Numbers, dates and times. Only what can be read is taken: `0123` is a zero with something behind it.
Numbers with a fraction or an exponent, dates and times are kept as they are written.
-/

namespace CommitRules.Toml

open CommitRules.Regex (isAsciiDigit isOctalDigit isHexDigit decimalNumber octalNumber)
open CommitRules.Text

/-- What was taken from `text` so that `rest` is left. -/
def takenFrom (text rest : List Char) : List Char := text.take (text.length - rest.length)

/-! ## Numbers -/

/-- Skips digits, with single underscores between them. -/
def skipDigits (isDigit : Char → Bool) : List Char → List Char
  | [] => []
  | [c] => if isDigit c then [] else [c]
  | c :: d :: rest =>
    if isDigit c then skipDigits isDigit (d :: rest)
    else if c = '_' && isDigit d then skipDigits isDigit rest
    else c :: d :: rest

/-- Skips digits of which there must be at least one. -/
def skipNumber? (isDigit : Char → Bool) (text : List Char) : Option (List Char) :=
  match text with
  | c :: rest => if isDigit c then some (skipDigits isDigit rest) else none
  | [] => none

/-- The digits of what was taken, without underscores. -/
def digitsFrom (text rest : List Char) : List Char := (takenFrom text rest).filter (· ≠ '_')

def isBinaryDigit (c : Char) : Bool := c = '0' || c = '1'

/-- Reads a number that says by its first letter which digits it has. -/
def readBased (text : List Char) : Option (Int × List Char) :=
  match text with
  | '0' :: 'x' :: digits =>
    (skipNumber? isHexDigit digits).map fun rest => (hexNumber (digitsFrom digits rest), rest)
  | '0' :: 'b' :: digits =>
    (skipNumber? isBinaryDigit digits).map fun rest =>
      ((digitsFrom digits rest).foldl (fun n c => 2 * n + (c.toNat - 48)) 0, rest)
  | '0' :: 'o' :: digits =>
    (skipNumber? isOctalDigit digits).map fun rest => (octalNumber (digitsFrom digits rest), rest)
  | _ => none

def skipSign (text : List Char) : List Char :=
  match text with
  | '+' :: rest => rest
  | '-' :: rest => rest
  | text => text

/-- Skips the whole part of a decimal number: a zero, or digits that start with another one. -/
def skipWhole? (text : List Char) : Option (List Char) :=
  match text with
  | '0' :: rest => some rest
  | text => skipNumber? isAsciiDigit text

def skipFraction (text : List Char) : List Char :=
  match text with
  | '.' :: rest => (skipNumber? isAsciiDigit rest).getD text
  | text => text

def skipExponent (text : List Char) : List Char :=
  match text with
  | 'e' :: rest => (skipNumber? isAsciiDigit (skipSign rest)).getD text
  | 'E' :: rest => (skipNumber? isAsciiDigit (skipSign rest)).getD text
  | text => text

def signedNumber (text : List Char) (digits : List Char) : Int :=
  match text with
  | '-' :: _ => -(decimalNumber digits : Int)
  | _ => decimalNumber digits

/-- Reads a number, if one starts here. -/
def readNumber (text : List Char) : Except Stop (Option (Value × List Char)) :=
  match readBased text with
  | some (number, rest) => .ok (some (.int number, rest))
  | none =>
    let unsigned := skipSign text
    match skipWhole? unsigned with
    | none => .ok none
    | some afterWhole =>
      let rest := skipExponent (skipFraction afterWhole)
      if rest.length < afterWhole.length then
        .ok (some (.decimal (String.ofList (takenFrom text rest)), rest))
      else
        let digits := digitsFrom unsigned afterWhole
        if Regex.numeralLimit < digits.length then .error (.numeralTooLong digits.length)
        else .ok (some (.int (signedNumber text digits), afterWhole))

/-! ## Dates and times -/

/-- Reads two digits between bounds. -/
def readTwo (low high : Nat) (text : List Char) : Option (Nat × List Char) :=
  match text with
  | c :: d :: rest =>
    let number := decimalNumber [c, d]
    if isAsciiDigit c && isAsciiDigit d && low ≤ number && number ≤ high then some (number, rest)
    else none
  | _ => none

def skipMark? (mark : Char) (text : List Char) : Option (List Char) :=
  match text with
  | c :: rest => if c = mark then some rest else none
  | [] => none

def skipTime? (text : List Char) : Option (List Char) := do
  let (_, rest) ← readTwo 0 23 text
  let (_, rest) ← readTwo 0 59 (← skipMark? ':' rest)
  let (_, rest) ← readTwo 0 59 (← skipMark? ':' rest)
  match rest with
  | '.' :: c :: fraction =>
    if isAsciiDigit c then return fraction.dropWhile isAsciiDigit else return rest
  | rest => return rest

/-- Skips the distance from universal time. -/
def skipOffset? (text : List Char) : Option (List Char) := do
  match text with
  | 'Z' :: rest => return rest
  | 'z' :: rest => return rest
  | c :: rest =>
    if c ≠ '+' && c ≠ '-' then none
    else
      let (_, rest) ← readTwo 0 23 rest
      let (_, rest) ← readTwo 0 59 (← skipMark? ':' rest)
      return rest
  | [] => none

def daysIn (year month : Nat) : Nat :=
  let leap := year % 4 = 0 && (year % 100 ≠ 0 || year % 400 = 0)
  if month = 2 then (if leap then 29 else 28)
  else if [4, 6, 9, 11].contains month then 30
  else 31

/-- Reads a date; says whether there is such a day. -/
def readDate? (text : List Char) : Option (Bool × List Char) := do
  let (century, rest) ← readTwo 0 99 text
  let (year, rest) ← readTwo 0 99 rest
  let (month, rest) ← readTwo 1 12 (← skipMark? '-' rest)
  let (day, rest) ← readTwo 1 31 (← skipMark? '-' rest)
  let year := 100 * century + year
  return (0 < year && day ≤ daysIn year month, rest)

/-- Skips the time of day behind a date, if there is one. -/
def skipTimeOfDate (text : List Char) : List Char :=
  match text with
  | [] => []
  | c :: rest =>
    if c = 'T' || c = 't' || c = ' ' then
      match skipTime? rest with
      | some rest => (skipOffset? rest).getD rest
      | none => text
    else text

/-- Reads a date or a time, if one starts here. -/
def readMoment (text : List Char) : Except Stop (Option (Value × List Char)) :=
  match readDate? text with
  | some (isDay, rest) =>
    if isDay then
      let rest := skipTimeOfDate rest
      .ok (some (.moment (String.ofList (takenFrom text rest)), rest))
    else refuse text .badMoment
  | none =>
    match skipTime? text with
    | some rest => .ok (some (.moment (String.ofList (takenFrom text rest)), rest))
    | none => .ok none

end CommitRules.Toml
