import CommitRules.Regex.CharName
import CommitRules.Regex.Groups

/-!
# CommitRules.Regex.Escape

What a backslash and the character behind it mean, inside a class and outside. Some escapes go on
behind that character: hexadecimal and octal numbers, names of characters, references to groups.
-/

namespace CommitRules.Regex

open CommitRules.Text

inductive Escape where
  | code (code : Nat)
  | member (kind : CharKind) (negated : Bool)
  | textStart
  | textEnd
  | wordEdge (negated : Bool)
  | reference (index : Nat)
  deriving DecidableEq, Repr

def isAsciiLetter (c : Char) : Bool := ('a' ≤ c && c ≤ 'z') || ('A' ≤ c && c ≤ 'Z')

def isAsciiDigit (c : Char) : Bool := '0' ≤ c && c ≤ '9'

def isOctalDigit (c : Char) : Bool := '0' ≤ c && c ≤ '7'

def isHexDigit (c : Char) : Bool := (hexDigit? c).isSome

def octalNumber (digits : List Char) : Nat :=
  digits.foldl (fun n c => 8 * n + (c.toNat - 48)) 0

def decimalNumber (digits : List Char) : Nat :=
  digits.foldl (fun n c => 10 * n + (c.toNat - 48)) 0

/-- The kinds of characters with an escape of their own. -/
def kindEscape? (c : Char) : Option Escape :=
  match c with
  | 'd' => some (.member .digit false)
  | 'D' => some (.member .digit true)
  | 's' => some (.member .space false)
  | 'S' => some (.member .space true)
  | 'w' => some (.member .word false)
  | 'W' => some (.member .word true)
  | _ => none

def placeEscape? (c : Char) : Option Escape :=
  match c with
  | 'A' => some .textStart
  | 'Z' => some .textEnd
  | 'b' => some (.wordEdge false)
  | 'B' => some (.wordEdge true)
  | _ => none

/-- The control characters with an escape of their own, and the backslash. -/
def controlEscape? (c : Char) : Option Escape :=
  match c with
  | 'a' => some (.code 7)
  | 'b' => some (.code 8)
  | 'f' => some (.code 12)
  | 'n' => some (.code 10)
  | 'r' => some (.code 13)
  | 't' => some (.code 9)
  | 'v' => some (.code 11)
  | c => if c = backslash then some (.code 92) else none

/-- Reads a number of exactly `count` hexadecimal digits, at most `largest`. -/
def takeHexCode (count largest : Nat) (c : Char) (feed : Feed) : Except Fault (Escape × Feed) := do
  let (digits, feed) ← feed.takeUpTo isHexDigit count
  let text := backslash :: c :: digits
  if digits.length < count then feed.refuseBack text.length (.incompleteEscape text)
  else if largest < hexNumber digits then feed.refuseBack text.length (.badEscape text)
  else return (.code (hexNumber digits), feed)

/-- The brace that opens the name of a character. -/
def nameOpens : Char := Char.ofNat 123

/-- The brace that closes the name of a character. -/
def nameCloses : Char := Char.ofNat 125

def takeCharName (feed : Feed) : Except Fault (Escape × Feed) := do
  let (opens, feed) ← feed.taking nameOpens
  if opens then
    let (name, feed) ← feed.takeName nameCloses "character name" []
    match charNamed? name with
    | some code => return (.code code, feed)
    | none => feed.refuseBack (name.length + 4) (.undefinedCharName name)
  else feed.refuse (.missing "\x7b")

/-- An octal number must fit a byte. -/
def octalEscape (digits : List Char) (feed : Feed) : Except Fault (Escape × Feed) :=
  if 0o377 < octalNumber digits then
    feed.refuseBack (digits.length + 1) (.octalTooLarge (backslash :: digits))
  else .ok (.code (octalNumber digits), feed)

/-- A reference to a group, which must be closed. -/
def groupReference (groups : Groups) (digits : List Char) (feed : Feed) :
    Except Fault (Escape × Feed) := do
  let index := decimalNumber digits
  if groups.nextIndex ≤ index then feed.refuseBack digits.length (.noSuchGroup index)
  else if (groups.width? index).isNone then feed.refuseBack (digits.length + 1) .openGroup
  else
    groups.checkBehind index feed
    return (.reference index, feed)

/-- A digit other than zero begins a reference to a group, or an octal number if three octal digits
stand together. -/
def takeReference (groups : Groups) (c : Char) (feed : Feed) : Except Fault (Escape × Feed) := do
  let (second, feed) ← feed.takeUpTo isAsciiDigit 1
  if (c :: second).all isOctalDigit && second.length = 1 then
    let (third, feed) ← feed.takeUpTo isOctalDigit 1
    if third.length = 1 then octalEscape (c :: second ++ third) feed
    else groupReference groups (c :: second) feed
  else groupReference groups (c :: second) feed

/-- The escapes that mean the same inside a class and outside: numbers, names of characters, and
what has no meaning of its own. -/
def takeCommon (c : Char) (feed : Feed) : Except Fault (Escape × Feed) :=
  match c with
  | 'x' => takeHexCode 2 0x10FFFF c feed
  | 'u' => takeHexCode 4 0x10FFFF c feed
  | 'U' => takeHexCode 8 0x10FFFF c feed
  | 'N' => takeCharName feed
  | c =>
    if isAsciiLetter c || isAsciiDigit c then feed.refuseBack 2 (.badEscape [backslash, c])
    else .ok (.code c.toNat, feed)

/-- Reads what follows a backslash and `c` outside a class. -/
def takeEscape (groups : Groups) (c : Char) (feed : Feed) : Except Fault (Escape × Feed) := do
  match (kindEscape? c <|> placeEscape? c <|> controlEscape? c : Option Escape) with
  | some escape => return (escape, feed)
  | none =>
    if c = '0' then
      let (digits, feed) ← feed.takeUpTo isOctalDigit 2
      return (.code (octalNumber digits), feed)
    else if isAsciiDigit c then takeReference groups c feed
    else takeCommon c feed

/-- Reads what follows a backslash and `c` inside a class. -/
def takeClassEscape (c : Char) (feed : Feed) : Except Fault (Escape × Feed) := do
  match (kindEscape? c <|> controlEscape? c : Option Escape) with
  | some escape => return (escape, feed)
  | none =>
    if isOctalDigit c then
      let (digits, feed) ← feed.takeUpTo isOctalDigit 2
      octalEscape (c :: digits) feed
    else takeCommon c feed

end CommitRules.Regex
