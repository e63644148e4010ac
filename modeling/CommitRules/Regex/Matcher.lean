import CommitRules.Regex.Node

/-!
# CommitRules.Regex.Matcher

Matching by backtracking. A `Spot` is a place in a text together with what the groups have matched
so far. `run node next` looks for a match of `node` from a spot on, in the order of preference the
pattern states, such that `next` succeeds behind it; the answer is what `next` answers.

A round of a repetition that starts where the round before it started is not begun, so a
repetition ends after finitely many rounds even if its body matches the empty text.
-/

namespace CommitRules.Regex

/-- A place in a text: the characters before it, nearest first, and those after it. -/
structure Cursor where
  before : List Char
  after : List Char
  offset : Nat

namespace Cursor

def start (text : List Char) : Cursor := ⟨[], text, 0⟩

/-- One character on. -/
def forward? (cursor : Cursor) : Option (Char × Cursor) :=
  match cursor.after with
  | [] => none
  | c :: rest => some (c, ⟨c :: cursor.before, rest, cursor.offset + 1⟩)

/-- One character back; the start of the text stays. -/
def back (cursor : Cursor) : Cursor :=
  match cursor.before with
  | [] => cursor
  | c :: rest => ⟨rest, c :: cursor.after, cursor.offset - 1⟩

/-- Several characters back. -/
def backBy (cursor : Cursor) : Nat → Cursor
  | 0 => cursor
  | n + 1 => cursor.back.backBy n

end Cursor

/-- Where a group has been entered and left last. -/
structure Slot where
  entry : Option Cursor
  exit : Option Cursor

/-- A place in a text and what the groups have matched; slot `i` belongs to group `i + 1`. -/
structure Spot where
  cursor : Cursor
  slots : Array Slot

namespace Spot

/-- The spot with another place. -/
def moveTo (spot : Spot) (cursor : Cursor) : Spot := { spot with cursor }

/-- Notes that a group is entered here. -/
def enter (spot : Spot) (index : Nat) : Spot :=
  let entered (slot : Slot) : Slot := { slot with entry := spot.cursor }
  { spot with slots := spot.slots.modify (index - 1) entered }

def leave (spot : Spot) (index : Nat) : Spot :=
  let left (slot : Slot) : Slot := { slot with exit := spot.cursor }
  { spot with slots := spot.slots.modify (index - 1) left }

def captured? (spot : Spot) (index : Nat) : Option (List Char) :=
  match spot.slots[index - 1]? with
  | some ⟨some entry, some exit⟩ =>
    if entry.offset ≤ exit.offset then some (entry.after.take (exit.offset - entry.offset))
    else none
  | _ => none

end Spot

/-- Holds when a word character stands on one side of the place only. -/
def atWordEdge (ascii : Bool) (cursor : Cursor) : Bool :=
  let isWord (c : Option Char) : Bool := c.any fun c => CharKind.word.holds ascii c.toNat
  isWord cursor.before.head? != isWord cursor.after.head?

/-- Holds at the places an anchor names. An empty text has no word edges and no other places. -/
def Anchor.holds (anchor : Anchor) (cursor : Cursor) : Bool :=
  match anchor with
  | .textStart => cursor.before.isEmpty
  | .lineStart => cursor.before.isEmpty || cursor.before.head? == some '\n'
  | .lastLineEnd => cursor.after.isEmpty || cursor.after == ['\n']
  | .lineEnd => cursor.after.isEmpty || cursor.after.head? == some '\n'
  | .textEnd => cursor.after.isEmpty
  | .wordEdge ascii negated =>
    !(cursor.before.isEmpty && cursor.after.isEmpty) && atWordEdge ascii cursor != negated

/-- What follows a match. -/
abbrev Next := Spot → Option Spot

/-- Moves over a text, character by character. -/
def skipText (folding : Folding) : List Char → Cursor → Option Cursor
  | [], cursor => some cursor
  | c :: cs, cursor =>
    match cursor.forward? with
    | none => none
    | some (d, further) =>
      if folding.fold c.toNat == folding.fold d.toNat then skipText folding cs further else none

/-- Moves over accepted characters, at most as many as `most` allows; counts them. -/
def skipAccepted (test : CharTest) (bounds : Bounds) (before : List Char) (offset count : Nat) :
    List Char → Cursor × Nat
  | [] => (⟨before, [], offset⟩, count)
  | c :: rest =>
    if bounds.allows count && test.accepts c then
      skipAccepted test bounds (c :: before) (offset + 1) (count + 1) rest
    else (⟨before, c :: rest, offset⟩, count)

/-- Tries `next` here and then up to `spare` characters back, one at a time. -/
def giveBack (next : Next) (spot : Spot) : Nat → Option Spot
  | 0 => next spot
  | spare + 1 =>
    match next spot with
    | some result => some result
    | none => giveBack next (spot.moveTo spot.cursor.back) spare

/-- Tries `next` here and then further on, as long as the characters are accepted. -/
def takeMore (test : CharTest) (bounds : Bounds) (next : Next) (slots : Array Slot)
    (before : List Char) (offset count : Nat) : List Char → Option Spot
  | [] => next ⟨⟨before, [], offset⟩, slots⟩
  | c :: rest =>
    match next ⟨⟨before, c :: rest, offset⟩, slots⟩ with
    | some result => some result
    | none =>
      if bounds.allows count && test.accepts c then
        takeMore test bounds next slots (c :: before) (offset + 1) (count + 1) rest
      else none

/-- Rounds of one character. -/
def runSpan (greed : Greed) (bounds : Bounds) (test : CharTest) (next : Next) (spot : Spot) :
    Option Spot :=
  match greed with
  | .lazy =>
    let ⟨first, count⟩ := skipAccepted test ⟨0, some bounds.least⟩ spot.cursor.before
      spot.cursor.offset 0 spot.cursor.after
    if count < bounds.least then none
    else takeMore test bounds next spot.slots first.before first.offset count first.after
  | _ =>
    let ⟨last, count⟩ := skipAccepted test bounds spot.cursor.before spot.cursor.offset 0
      spot.cursor.after
    if count < bounds.least then none
    else if greed = .possessive then next (spot.moveTo last)
    else giveBack next (spot.moveTo last) (count - bounds.least)

/-- Rounds of a body, as many as possible first. `last` is where the latest round beyond the least
number began; `fuel` bounds the number of rounds. -/
def runGreedy (body : Next → Next) (bounds : Bounds) (next : Next) :
    Nat → Nat → Option Nat → Next
  | 0, _, _, _ => none
  | fuel + 1, count, last, spot =>
    if count < bounds.least then body (runGreedy body bounds next fuel (count + 1) last) spot
    else if bounds.allows count && last != some spot.cursor.offset then
      match body (runGreedy body bounds next fuel (count + 1) (some spot.cursor.offset)) spot with
      | some result => some result
      | none => next spot
    else next spot

/-- Rounds of a body, as few as possible first. -/
def runLazy (body : Next → Next) (bounds : Bounds) (next : Next) : Nat → Nat → Option Nat → Next
  | 0, _, _, _ => none
  | fuel + 1, count, last, spot =>
    if count < bounds.least then body (runLazy body bounds next fuel (count + 1) last) spot
    else
      match next spot with
      | some result => some result
      | none =>
        if bounds.allows count && last != some spot.cursor.offset then
          body (runLazy body bounds next fuel (count + 1) (some spot.cursor.offset)) spot
        else none

/-- Rounds of a body, each one settled before the next. -/
def runPossessive (body : Next → Next) (bounds : Bounds) (next : Next) :
    Nat → Nat → Option Nat → Next
  | 0, _, _, _ => none
  | fuel + 1, count, last, spot =>
    if count < bounds.least then
      match body some spot with
      | some further => runPossessive body bounds next fuel (count + 1) last further
      | none => none
    else if bounds.allows count && last != some spot.cursor.offset then
      match body some spot with
      | some further =>
        runPossessive body bounds next fuel (count + 1) (some spot.cursor.offset) further
      | none => next spot
    else next spot

/-- Rounds enough for every repetition that starts at a spot: the least number, and then one for
each place from there to the end of the text and one without progress. -/
def roundsFrom (bounds : Bounds) (spot : Spot) : Nat :=
  bounds.least + spot.cursor.after.length + 2

def run : Node → Next → Next
  | .empty, next, spot => next spot
  | .one test, next, spot =>
    match spot.cursor.forward? with
    | none => none
    | some (c, further) => if test.accepts c then next (spot.moveTo further) else none
  | .seq first second, next, spot => run first (run second next) spot
  | .alt first second, next, spot =>
    match run first next spot with
    | some result => some result
    | none => run second next spot
  | .anchor anchor, next, spot => if anchor.holds spot.cursor then next spot else none
  | .group index body, next, spot =>
    run body (fun further => next (further.leave index)) (spot.enter index)
  | .atomic body, next, spot =>
    match run body some spot with
    | some further => next further
    | none => none
  | .ahead negated body, next, spot =>
    match run body some spot, negated with
    | some further, false => next (further.moveTo spot.cursor)
    | none, true => next spot
    | _, _ => none
  | .behind negated width body, next, spot =>
    let found :=
      if spot.cursor.offset < width.least then none
      else run body some (spot.moveTo (spot.cursor.backBy width.least))
    match found, negated with
    | some further, false => next (further.moveTo spot.cursor)
    | none, true => next spot
    | _, _ => none
  | .backref folding index, next, spot =>
    match spot.captured? index with
    | none => none
    | some text =>
      match skipText folding text spot.cursor with
      | none => none
      | some further => next (spot.moveTo further)
  | .conditional index yes no, next, spot =>
    if (spot.captured? index).isSome then run yes next spot else run no next spot
  | .span greed bounds test, next, spot => runSpan greed bounds test next spot
  | .rounds greed bounds body, next, spot =>
    match greed with
    | .greedy => runGreedy (run body) bounds next (roundsFrom bounds spot) 0 none spot
    | .lazy => runLazy (run body) bounds next (roundsFrom bounds spot) 0 none spot
    | .possessive => runPossessive (run body) bounds next (roundsFrom bounds spot) 0 none spot

/-- The number of slots the groups of a node need. -/
def Node.groupCount : Node → Nat
  | .seq first second | .alt first second => max first.groupCount second.groupCount
  | .conditional _ yes no => max yes.groupCount no.groupCount
  | .group index body => max index body.groupCount
  | .atomic body | .ahead _ body | .behind _ _ body | .rounds _ _ body => body.groupCount
  | _ => 0

/-- The spot at the start of a search: no group has matched. -/
def Node.spotAt (node : Node) (cursor : Cursor) : Spot :=
  ⟨cursor, Array.replicate node.groupCount ⟨none, none⟩⟩

/-- Holds when some match starts at one of the characters of a text or at its end. -/
def Node.occursFrom (node : Node) (before : List Char) (offset : Nat) : List Char → Bool
  | [] => (run node some (node.spotAt ⟨before, [], offset⟩)).isSome
  | c :: rest =>
    (run node some (node.spotAt ⟨before, c :: rest, offset⟩)).isSome ||
      node.occursFrom (c :: before) (offset + 1) rest

/-- Holds when the node matches some part of a text. -/
def Node.occursIn (node : Node) (text : List Char) : Bool := node.occursFrom [] 0 text

/-- Accepts the end of the text only. -/
def textEndOnly : Next := fun spot => if spot.cursor.after.isEmpty then some spot else none

/-- Holds when the node matches a text as a whole. -/
def Node.matchesAll (node : Node) (text : List Char) : Bool :=
  (run node textEndOnly (node.spotAt (Cursor.start text))).isSome

end CommitRules.Regex
