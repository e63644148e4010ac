import CommitRules.Regex.Feed
import CommitRules.Regex.Node
import CommitRules.Text.Identifier
import CommitRules.Text.Blank
import CommitRules.Text.Letter

/-!
# CommitRules.Regex.Groups

The groups of a pattern that is being read: which are open, how wide the closed ones are, what they
are called, and which of them may be referred to.
-/

namespace CommitRules.Regex

open CommitRules.Text

/-- What is known about the groups read so far; group 1 comes first in `widths`. -/
structure Groups where
  /-- The width of every group, `none` while it is open. -/
  widths : Array (Option Width)
  /-- The named groups, the latest first. -/
  names : List (List Char × Nat)
  /-- Inside a look-behind, the number the first group opened in it got or would get. -/
  behindFrom : Option Nat
  /-- The groups that conditions ask about by number, with the offset of the first mention, the
  latest first. -/
  asked : List (Nat × Nat)

namespace Groups

/-- No groups. -/
def none : Groups := ⟨#[], [], .none, []⟩

/-- The number the next group gets. -/
def nextIndex (groups : Groups) : Nat := groups.widths.size + 1

/-- The width of a closed group. -/
def width? (groups : Groups) (index : Nat) : Option Width :=
  if index = 0 then .none else (groups.widths[index - 1]?).join

def opened (groups : Groups) (name : Option (List Char)) : Groups :=
  { groups with
    widths := groups.widths.push .none
    names := match name with
      | some name => (name, groups.nextIndex) :: groups.names
      | .none => groups.names }

def closed (groups : Groups) (index : Nat) (width : Width) : Groups :=
  { groups with widths := groups.widths.modify (index - 1) fun _ => some width }

/-- The number of a named group. -/
def named? (groups : Groups) (name : List Char) : Option Nat := groups.names.lookup name

/-- Notes that a condition at `offset` asks about a group. -/
def asking (groups : Groups) (index offset : Nat) : Groups :=
  if (groups.asked.lookup index).isSome then groups
  else { groups with asked := (index, offset) :: groups.asked }

/-- Inside a look-behind, only groups closed before it may be referred to. -/
def checkBehind (groups : Groups) (index : Nat) (feed : Feed) : Except Fault Unit :=
  match groups.behindFrom with
  | .none => .ok ()
  | some first =>
    if (groups.width? index).isNone then feed.refuse .openGroup
    else if first ≤ index then feed.refuse .groupInsideBehind
    else .ok ()

/-- Refuses the first group asked about that does not exist. -/
def checkAsked (groups : Groups) : Except Fault Unit :=
  match groups.asked.reverse.find? fun (index, _) => groups.nextIndex ≤ index with
  | some (index, offset) => .error (.malformed (.noSuchGroup index) offset)
  | .none => .ok ()

end Groups

/-- Takes the name of a group up to `mark`. -/
def takeGroupName (mark : Char) (feed : Feed) : Except Fault (List Char × Feed) := do
  let (name, feed) ← feed.takeName mark "group name" []
  if isIdentifier name then return (name, feed)
  else feed.refuseBack (name.length + 1) (.badGroupName name)

/-- Reads decimal digits of any script; a single underscore may stand between two of them. Counts
the digits. -/
def digitsValue? (value count : Nat) (afterDigit : Bool) : List Char → Option (Nat × Nat)
  | [] => if afterDigit then some (value, count) else none
  | c :: rest =>
    if c = '_' then if afterDigit then digitsValue? value count false rest else none
    else
      match digitValue? c.toNat with
      | some digit => digitsValue? (10 * value + digit) (count + 1) true rest
      | none => none

/-- The number a text stands for: digits with white space around them and a sign before them. A
negative number is none, and neither is one with too many digits. -/
def groupNumber? (text : List Char) : Option Nat :=
  let number (digits : List Char) : Option Nat :=
    match digitsValue? 0 0 false digits with
    | some (value, count) => if count ≤ numeralLimit then some value else none
    | none => none
  match stripChars text with
  | '+' :: digits => number digits
  | '-' :: digits => if number digits = some 0 then some 0 else none
  | digits => number digits

end CommitRules.Regex
