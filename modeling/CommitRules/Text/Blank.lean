import CommitRules.Text.Ranges

/-!
# CommitRules.Text.Blank

White space: the space, the ASCII control characters that move the print position or separate
records, and the separators of Unicode. `strip` takes white space off both ends of a text.
-/

namespace CommitRules.Text

/-- The white space past ASCII. -/
def wideBlanks : Ranges :=
  [(0x85, 0x85), (0xA0, 0xA0), (0x1680, 0x1680), (0x2000, 0x200A), (0x2028, 0x2029),
   (0x202F, 0x202F), (0x205F, 0x205F), (0x3000, 0x3000)]

/-- Holds of the code points of white space. -/
def isBlankCode (c : Nat) : Bool :=
  if c < 128 then (9 ≤ c && c ≤ 13) || (28 ≤ c && c ≤ 32) else wideBlanks.contains c

/-- Holds of white space. -/
def isBlank (c : Char) : Bool := isBlankCode c.toNat

/-- The text without the white space at its ends. -/
def stripChars (text : List Char) : List Char :=
  ((text.dropWhile isBlank).reverse.dropWhile isBlank).reverse

/-- The text without the white space at its ends. -/
def strip (text : String) : String := String.ofList (stripChars text.toList)

end CommitRules.Text
