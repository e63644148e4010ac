import CommitRules.Regex.LetterNames
import CommitRules.Regex.SymbolNames
import CommitRules.Text.LetterCase
import CommitRules.Text.Lines

/-!
# CommitRules.Regex.CharName

Characters by name. Most names stand in tables; those of Chinese ideographs spell the code point,
and those of Korean syllables the letters that a syllable is put together from.
-/

namespace CommitRules.Regex

open CommitRules.Text

/-- Characters whose names begin alike: the first of them, how far it is from each to the next, what
the names begin with, and how each of them goes on. -/
structure NameRun where
  first : Nat
  step : Nat
  start : List Char
  ends : List (List Char)
  deriving DecidableEq, Repr

namespace NameRun

/-- The words of a text with one blank between any two. -/
def evenly (text : List Char) : List Char := joinWith ' ' (words text)

/-- Reads an entry of a table: a code point, the words all the names begin with, a colon, and the
ends of the names. -/
def readEntry (entry : List Char) : NameRun :=
  let head := words (entry.takeWhile (· != ':'))
  let code := head.headD []
  { first := hexNumber (code.filter (· != '+'))
    step := if code.contains '+' then 2 else 1
    start := (head.tail.map (· ++ [' '])).flatten
    ends := (splitAt ';' ((entry.dropWhile (· != ':')).drop 1)).map evenly }

/-- The character of a run that has a name. -/
def find? (run : NameRun) (name : List Char) : Option Nat :=
  if run.start.isPrefixOf name then
    (run.ends.idxOf? (name.drop run.start.length)).map fun place => run.first + run.step * place
  else none

end NameRun

/-- Looks a name up among entries with a full stop between any two. -/
def findEntry? (table : String) (name : List Char) : Option Nat :=
  (splitAt '.' table.toList).findSome? fun entry => (NameRun.readEntry entry).find? name

/-- Looks a name up among pairs of a code point and a name. -/
def findPair? (table : String) (name : List Char) : Option Nat :=
  (splitAt ';' table.toList).findSome? fun pair =>
    match words pair with
    | code :: rest => if joinWith ' ' rest = name then some (hexNumber code) else none
    | [] => none

/-! ## Names put together by rule -/

/-- What is left of a text behind something it begins with. -/
def behind? (start text : List Char) : Option (List Char) :=
  if start.isPrefixOf text then some (text.drop start.length) else none

/-- The Chinese ideographs. -/
def ideographs : Ranges :=
  .ofText "3400-4dbf 4e00-9fff 20000-2a6df 2a700-2b738 2b740-2b81d 2b820-2cea1 2ceb0-2ebe0
    30000-3134a"

/-- The ideograph whose name ends in the given digits. -/
def ideograph? (digits : List Char) : Option Nat :=
  let code := hexNumber digits
  if (digits.length == 4 || digits.length == 5) &&
      digits.all (fun c => (hexDigit? c).isSome && c.toUpper == c) && ideographs.contains code then
    some code
  else none

/-- The longest of some spellings that a text begins with, by number, and the text behind it. -/
def takeSpelling (spellings : List (List Char)) (text : List Char) : Option (Nat × List Char) :=
  let fitting := spellings.zipIdx.filter fun (spelling, _) => spelling.isPrefixOf text
  let longest := (fitting.map fun (spelling, _) => spelling.length).max?
  (fitting.find? fun (spelling, _) => some spelling.length == longest).map
    fun (spelling, number) => (number, text.drop spelling.length)

/-- Spellings of the consonants that a Korean syllable begins with. -/
def leadSpellings : List (List Char) :=
  splitAt ',' "G,GG,N,D,DD,R,M,B,BB,S,SS,,J,JJ,C,K,T,P,H".toList

/-- Spellings of the vowels of a Korean syllable. -/
def vowelSpellings : List (List Char) :=
  splitAt ',' "A,AE,YA,YAE,EO,E,YEO,YE,O,WA,WAE,OE,YO,U,WEO,WE,WI,YU,EU,YI,I".toList

/-- Spellings of the consonants that a Korean syllable ends with. -/
def tailSpellings : List (List Char) :=
  splitAt ',' ",G,GG,GS,N,NJ,NH,D,L,LG,LM,LB,LS,LT,LP,LH,M,B,BS,S,SS,NG,J,C,K,T,P,H".toList

/-- The Korean syllable with a spelling. Syllables are numbered by lead, vowel and tail. -/
def syllable? (spelling : List Char) : Option Nat := do
  let (lead, rest) ← takeSpelling leadSpellings spelling
  let (vowel, rest) ← takeSpelling vowelSpellings rest
  let (tail, rest) ← takeSpelling tailSpellings rest
  if rest.isEmpty then
    some (0xAC00 + (lead * vowelSpellings.length + vowel) * tailSpellings.length + tail)
  else none

/-- The character with a name. Letters of either case are the same in a name, except in one that is
put together by rule. -/
def charNamed? (name : List Char) : Option Nat :=
  match behind? "HANGUL SYLLABLE ".toList name, behind? "CJK UNIFIED IDEOGRAPH-".toList name with
  | some spelling, _ => syllable? spelling
  | none, some digits => ideograph? digits
  | none, none =>
    let name := name.map Char.toUpper
    findPair? controlNames name <|> findEntry? letterNames name <|> findEntry? symbolNames name

end CommitRules.Regex
