import CommitRules.Text.Quoted

/-!
# CommitRules.Text.Utf8

Reading bytes as UTF-8. A malformed sequence is cut off at the longest part that could still have
become a character. Strict reading stops there and says what is wrong; lossy reading puts one
replacement character in its place and goes on behind it.
-/

namespace CommitRules.Text.Utf8

/-- What is wrong with a malformed sequence. -/
inductive Reason where
  /-- No character starts with this byte. -/
  | invalidStart
  /-- The sequence breaks off before a byte that cannot continue it. -/
  | invalidContinuation
  /-- The bytes end inside the sequence. -/
  | unexpectedEnd
  deriving DecidableEq, Repr

/-- What the bytes start with; `more` counts the bytes after the first one. -/
inductive Piece where
  | char (c : Char) (more : Nat)
  | fault (reason : Reason) (more : Nat)

/-- Holds of the bytes that continue a sequence. -/
def isTail (b : UInt8) : Bool := 0x80 ≤ b && b ≤ 0xBF

/-- The six bits a continuing byte carries. -/
def tailBits (b : UInt8) : Nat := b.toNat % 64

/-- The bounds of the second byte after the first byte of a longer sequence. -/
def secondBounds (first : UInt8) : UInt8 × UInt8 :=
  if first = 0xE0 then (0xA0, 0xBF)
  else if first = 0xED then (0x80, 0x9F)
  else if first = 0xF0 then (0x90, 0xBF)
  else if first = 0xF4 then (0x80, 0x8F)
  else (0x80, 0xBF)

/-- Holds of the bytes that may follow `first`. -/
def isSecond (first b : UInt8) : Bool :=
  (secondBounds first).1 ≤ b && b ≤ (secondBounds first).2

/-- A sequence of two bytes. -/
def piece2 (a : UInt8) : List UInt8 → Piece
  | [] => .fault .unexpectedEnd 0
  | b :: _ =>
    if isTail b then .char (Char.ofNat (a.toNat % 32 * 64 + tailBits b)) 1
    else .fault .invalidContinuation 0

/-- A sequence of three bytes. -/
def piece3 (a : UInt8) : List UInt8 → Piece
  | [] => .fault .unexpectedEnd 0
  | [b] => if isSecond a b then .fault .unexpectedEnd 1 else .fault .invalidContinuation 0
  | b :: c :: _ =>
    if !isSecond a b then .fault .invalidContinuation 0
    else if !isTail c then .fault .invalidContinuation 1
    else .char (Char.ofNat ((a.toNat % 16 * 64 + tailBits b) * 64 + tailBits c)) 2

/-- A sequence of four bytes. -/
def piece4 (a : UInt8) : List UInt8 → Piece
  | [] => .fault .unexpectedEnd 0
  | [b] => if isSecond a b then .fault .unexpectedEnd 1 else .fault .invalidContinuation 0
  | [b, c] =>
    if !isSecond a b then .fault .invalidContinuation 0
    else if isTail c then .fault .unexpectedEnd 2 else .fault .invalidContinuation 1
  | b :: c :: d :: _ =>
    if !isSecond a b then .fault .invalidContinuation 0
    else if !isTail c then .fault .invalidContinuation 1
    else if !isTail d then .fault .invalidContinuation 2
    else .char
      (Char.ofNat (((a.toNat % 8 * 64 + tailBits b) * 64 + tailBits c) * 64 + tailBits d)) 3

/-- What the bytes `a :: rest` start with. -/
def piece (a : UInt8) (rest : List UInt8) : Piece :=
  if a < 0x80 then .char (Char.ofNat a.toNat) 0
  else if a < 0xC2 then .fault .invalidStart 0
  else if a < 0xE0 then piece2 a rest
  else if a < 0xF0 then piece3 a rest
  else if a < 0xF5 then piece4 a rest
  else .fault .invalidStart 0

/-- Where strict reading stops: the malformed sequence spans `first` to `last`, both counted from
zero; `byte` is the byte at `first`. -/
structure Fault where
  reason : Reason
  byte : UInt8
  first : Nat
  last : Nat
  deriving DecidableEq, Repr

def Reason.message : Reason → String
  | .invalidStart => "invalid start byte"
  | .invalidContinuation => "invalid continuation byte"
  | .unexpectedEnd => "unexpected end of data"

/-- The wording of a fault: a single byte is shown, several are given by their positions. -/
def Fault.message (fault : Fault) : String :=
  let place :=
    if fault.first = fault.last then
      s!"byte 0x{String.ofList (hexDigits 2 fault.byte.toNat)} in position {fault.first}"
    else s!"bytes in position {fault.first}-{fault.last}"
  s!"'utf-8' codec can't decode {place}: {fault.reason.message}"

/-- Reads strictly from position `at`; `acc` holds what has been read, last character first. -/
def decodeFrom (start : Nat) (bytes : List UInt8) (acc : List Char) : Except Fault (List Char) :=
  match bytes with
  | [] => .ok acc.reverse
  | a :: rest =>
    match piece a rest with
    | .char c more => decodeFrom (start + 1 + more) (rest.drop more) (c :: acc)
    | .fault reason more => .error ⟨reason, a, start, start + more⟩
  termination_by bytes.length
  decreasing_by simp only [List.length_drop, List.length_cons]; omega

/-- Strict reading. -/
def decodeChars (bytes : List UInt8) : Except Fault (List Char) := decodeFrom 0 bytes []

def decode (bytes : List UInt8) : Except Fault String := (decodeChars bytes).map String.ofList

/-- The character that stands for a malformed sequence. -/
def replacement : Char := Char.ofNat 0xFFFD

/-- Lossy reading. -/
def decodeLossy (bytes : List UInt8) : List Char :=
  match bytes with
  | [] => []
  | a :: rest =>
    match piece a rest with
    | .char c more => c :: decodeLossy (rest.drop more)
    | .fault _ more => replacement :: decodeLossy (rest.drop more)
  termination_by bytes.length
  decreasing_by all_goals (simp only [List.length_drop, List.length_cons]; omega)

/-- The UTF-8 form of a text. -/
def encode (text : String) : List UInt8 := text.toUTF8.toList

end CommitRules.Text.Utf8
