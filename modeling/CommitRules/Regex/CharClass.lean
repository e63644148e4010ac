import CommitRules.Regex.Escape

/-!
# CommitRules.Regex.CharClass

Reading a class between brackets. A closing bracket that comes first is a member, and so is a
hyphen at either end. A class of one character is the test for that character.
-/

namespace CommitRules.Regex

/-- The member an escape stands for, if it can stand in a class. -/
def Escape.item? : Escape → Option ClassItem
  | .code c => some (.char c)
  | .member k negated => some (.member k negated)
  | _ => none

/-- Reads one member, which begins with the piece `text`. -/
def takeItem (text : List Char) (feed : Feed) : Except Fault (ClassItem × Feed) := do
  match text with
  | [_, c] =>
    let (escape, feed) ← takeClassEscape c feed
    match escape.item? with
    | some item => return (item, feed)
    | none => feed.refuseBack 2 (.badEscape text)
  | [c] => return (.char c.toNat, feed)
  | _ => return (.char 0, feed)

/-- The members between two characters; `low` and `high` are the pieces they begin with. -/
def rangeItem (low high : List Char) (first last : ClassItem) (feed : Feed) :
    Except Fault ClassItem :=
  match first, last with
  | .char a, .char b =>
    if b < a then feed.refuseBack (low.length + 1 + high.length) (.badRange low high)
    else .ok (.range a b)
  | _, _ => feed.refuseBack (low.length + 1 + high.length) (.badRange low high)

/-- Reads members up to the closing bracket. `opened` is the offset of the opening one, `items`
holds the members read, the last one first; `fuel` bounds their number. -/
def takeItems (opened : Nat) : Nat → List ClassItem → Feed → Except Fault (List ClassItem × Feed)
  | 0, _, _ => .error (.malformed .unterminatedClass opened)
  | fuel + 1, items, feed =>
    match feed.next? with
    | none => .error (.malformed .unterminatedClass opened)
    | some (low, feed) => do
      let feed ← feed.settled
      if low = [']'] && !items.isEmpty then return (items.reverse, feed)
      let (first, feed) ← takeItem low feed
      let (hyphen, feed) ← feed.taking '-'
      if !hyphen then takeItems opened fuel (first :: items) feed
      else
        match feed.next? with
        | none => .error (.malformed .unterminatedClass opened)
        | some (high, feed) =>
          let feed ← feed.settled
          if high = [']'] then return ((.char 45 :: first :: items).reverse, feed)
          let (last, feed) ← takeItem high feed
          let item ← rangeItem low high first last feed
          takeItems opened fuel (item :: items) feed

def classTest (folding : Folding) (ascii negated : Bool) (items : List ClassItem) : CharTest :=
  match items.eraseDups with
  | [.char code] => .literal folding negated code
  | items => .oneOf folding ascii negated items

/-- Reads a class behind its opening bracket, whose offset is `opened`. -/
def takeClass (folding : Folding) (ascii : Bool) (opened : Nat) (feed : Feed) :
    Except Fault (CharTest × Feed) := do
  let (negated, feed) ← feed.taking '^'
  let (items, feed) ← takeItems opened (feed.size + 1) [] feed
  return (classTest folding ascii negated items, feed)

end CommitRules.Regex
