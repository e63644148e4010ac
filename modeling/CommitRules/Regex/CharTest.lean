import CommitRules.Text.Blank
import CommitRules.Text.Letter
import CommitRules.Text.LetterCase

/-!
# CommitRules.Regex.CharTest

What a pattern asks of a single character. Characters of patterns are code points, since a pattern
may name one that no text can hold.

Under a folding, the character of the text is taken in lower case, and what the pattern lists
stands for everything with the same lower-case form or with a case variant of it. A character past
`0xFFFF` listed among others in a class stands for its own code point only, and so do both ends of
a range past it; the upper-case form of the text's character may then lie in the range as well.
-/

namespace CommitRules.Regex

open CommitRules.Text

/-- How letters of different case are told apart. -/
inductive Folding where
  /-- Case counts. -/
  | exact
  /-- The case of the ASCII letters does not count. -/
  | ascii
  /-- Case does not count. -/
  | full
  deriving DecidableEq, Repr

/-- The form of a character in which the folding compares. -/
def Folding.fold : Folding → Nat → Nat
  | .exact, c => c
  | .ascii, c => asciiLower c
  | .full, c => lower c

/-- Holds when `folded`, the folded form of a text's character, stands for `listed`. -/
def Folding.admits (folding : Folding) (listed folded : Nat) : Bool :=
  match folding with
  | .exact => folded == listed
  | .ascii => folded == asciiLower listed
  | .full => folded == lower listed || (lowerVariants (lower listed)).contains folded

/-- The characters whose folded form is, or is a case variant of, `folded`. -/
def Folding.sources (folding : Folding) (folded : Nat) : List Nat :=
  match folding with
  | .exact => [folded]
  | .ascii => if 97 ≤ folded && folded ≤ 122 then [folded, folded - 32] else [folded]
  | .full => (folded :: lowerVariants folded).flatMap lowerSources

/-- The kinds of characters a pattern can name; `ascii` limits a kind to ASCII. -/
inductive CharKind where
  | digit
  | space
  | word
  deriving DecidableEq, Repr

def CharKind.holds (kind : CharKind) (ascii : Bool) (c : Nat) : Bool :=
  match kind, ascii with
  | .digit, true => 48 ≤ c && c ≤ 57
  | .digit, false => isDecimalDigit c
  | .space, true => c == 32 || (9 ≤ c && c ≤ 13)
  | .space, false => isBlankCode c
  | .word, true => isAsciiWordChar c
  | .word, false => isWordChar c

inductive ClassItem where
  | char (code : Nat)
  | range (low high : Nat)
  | member (kind : CharKind) (negated : Bool)
  deriving DecidableEq, Repr

/-- Membership in a range: `folded` stands for a character between `low` and `high`. -/
def inRange (folding : Folding) (low high folded : Nat) : Bool :=
  match folding with
  | .exact => low ≤ folded && folded ≤ high
  | _ =>
    (folding.sources folded).any (fun c => low ≤ c && c ≤ high && c < 0x10000) ||
      (0x10000 ≤ high &&
        ((low ≤ folded && folded ≤ high) || (low ≤ upper folded && upper folded ≤ high)))

/-- Whether a member of a class admits the character with the folded form `folded`. -/
def ClassItem.admits (folding : Folding) (ascii : Bool) (folded : Nat) : ClassItem → Bool
  | .char code =>
    if code < 0x10000 then folding.admits code folded else folded == code
  | .range low high => inRange folding low high folded
  | .member kind negated => kind.holds ascii folded != negated

inductive CharTest where
  /-- Every character, or every one but the line feed. -/
  | any (lineFeed : Bool)
  /-- One character, or every other one if `negated`. -/
  | literal (folding : Folding) (negated : Bool) (code : Nat)
  /-- The members of a class, or everything else if `negated`. -/
  | oneOf (folding : Folding) (ascii negated : Bool) (items : List ClassItem)
  deriving DecidableEq, Repr

def CharTest.accepts (test : CharTest) (c : Char) : Bool :=
  match test with
  | .any lineFeed => lineFeed || c != '\n'
  | .literal folding negated code => folding.admits code (folding.fold c.toNat) != negated
  | .oneOf folding ascii negated items =>
    let folded := folding.fold c.toNat
    items.any (·.admits folding ascii folded) != negated

end CommitRules.Regex
