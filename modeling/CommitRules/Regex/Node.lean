import CommitRules.Regex.CharTest

/-!
# CommitRules.Regex.Node

Patterns after reading. Flags have been settled by then: every node carries what it needs to know.
-/

namespace CommitRules.Regex

/-- Places in a text that take up no characters. -/
inductive Anchor where
  | textStart
  | lineStart
  /-- The end of the text, or of its last line when only a line feed follows. -/
  | lastLineEnd
  | lineEnd
  | textEnd
  /-- A place with a word character on one side only; or any other place if `negated`. -/
  | wordEdge (ascii negated : Bool)
  deriving DecidableEq, Repr

/-- How a repetition chooses its count. -/
inductive Greed where
  /-- As often as possible, giving back when the rest fails. -/
  | greedy
  /-- As rarely as possible, taking more when the rest fails. -/
  | lazy
  /-- As often as possible, giving nothing back. -/
  | possessive
  deriving DecidableEq, Repr

/-- How often a repetition runs; `none` sets no upper bound. -/
structure Bounds where
  least : Nat
  most : Option Nat
  deriving DecidableEq, Repr

/-- Whether another round may follow `count` rounds. -/
def Bounds.allows (bounds : Bounds) (count : Nat) : Bool :=
  match bounds.most with
  | none => true
  | some most => count < most

/-- The least and greatest number of characters a match takes up. -/
structure Width where
  least : Nat
  most : Nat
  deriving DecidableEq, Repr

namespace Width

/-- Widths are not told apart from here on. -/
def limit : Nat := 0x10000000000000000

def zero : Width := ⟨0, 0⟩

def one : Width := ⟨1, 1⟩

def add (a b : Width) : Width := ⟨min (a.least + b.least) limit, min (a.most + b.most) limit⟩

def either (a b : Width) : Width := ⟨min a.least b.least, max a.most b.most⟩

def times (a : Width) (bounds : Bounds) : Width :=
  ⟨min (a.least * bounds.least) limit,
    match bounds.most with
    | some most => min (a.most * most) limit
    | none => if a.most = 0 then 0 else limit⟩

end Width

inductive Node where
  | empty
  | one (test : CharTest)
  | seq (first second : Node)
  | alt (first second : Node)
  | anchor (anchor : Anchor)
  /-- A pattern whose match is kept under a number. -/
  | group (index : Nat) (body : Node)
  /-- A pattern that does not look for a second match when the rest fails. -/
  | atomic (body : Node)
  /-- A condition on what follows. -/
  | ahead (negated : Bool) (body : Node)
  /-- A condition on what comes before; `width` is that of the body. -/
  | behind (negated : Bool) (width : Width) (body : Node)
  | backref (folding : Folding) (index : Nat)
  /-- One pattern if a group has matched, another if not. -/
  | conditional (index : Nat) (yes no : Node)
  /-- Rounds of one character. -/
  | span (greed : Greed) (bounds : Bounds) (test : CharTest)
  /-- Rounds of a pattern. -/
  | rounds (greed : Greed) (bounds : Bounds) (body : Node)
  deriving DecidableEq, Repr

namespace Node

/-- Patterns one after the other. -/
def sequence : List Node → Node
  | [] => .empty
  | [node] => node
  | node :: nodes => .seq node (sequence nodes)

/-- Patterns as alternatives, tried in order. -/
def alternatives : List Node → Node
  | [] => .empty
  | [node] => node
  | node :: nodes => .alt node (alternatives nodes)

/-- A repetition. -/
def repeated (greed : Greed) (bounds : Bounds) : Node → Node
  | .one test => .span greed bounds test
  | body => .rounds greed bounds body

end Node

end CommitRules.Regex
