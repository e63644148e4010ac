/-!
# CommitRules.Text.Ranges

Sets of code points written as ascending ranges, the form in which this library keeps its tables
of characters, and the hexadecimal notation the tables are written in.
-/

namespace CommitRules.Text

/-- The value of a hexadecimal digit in either case, `none` for any other character. -/
def hexDigit? (c : Char) : Option Nat :=
  if '0' ≤ c && c ≤ '9' then some (c.toNat - 48)
  else if 'a' ≤ c && c ≤ 'f' then some (c.toNat - 87)
  else if 'A' ≤ c && c ≤ 'F' then some (c.toNat - 55)
  else none

/-- The number a list of hexadecimal digits stands for, most significant digit first. -/
def hexNumber (digits : List Char) : Nat :=
  digits.foldl (fun n c => 16 * n + (hexDigit? c).getD 0) 0

/-- The pieces of a table between blanks and line feeds. -/
def words (text : List Char) : List (List Char) :=
  ((text.splitBy fun a b => (a == ' ' || a == '\n') == (b == ' ' || b == '\n')).filter
    fun piece => !(piece.head? == some ' ' || piece.head? == some '\n'))

/-- A set of code points as ascending, disjoint, closed ranges. -/
abbrev Ranges := List (Nat × Nat)

namespace Ranges

/-- The first code point of the range that holds `c`; the search ends at the first range past it. -/
def startOf? : Ranges → Nat → Option Nat
  | [], _ => none
  | (lo, hi) :: rest, c =>
    if c < lo then none else if c ≤ hi then some lo else startOf? rest c

def contains (ranges : Ranges) (c : Nat) : Bool := (ranges.startOf? c).isSome

/-- Reads one item, `n` or `lo-hi`. -/
def readItem (item : List Char) : Nat × Nat :=
  let low := item.takeWhile (· != '-')
  let high := (item.dropWhile (· != '-')).drop 1
  (hexNumber low, hexNumber (if high.isEmpty then low else high))

/-- Reads items `n` and `lo-hi` in hexadecimal, apart from one another. -/
def ofText (text : String) : Ranges := (words text.toList).map readItem

end Ranges

end CommitRules.Text
