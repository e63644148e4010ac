import CommitRules.Regex.Fault

/-!
# CommitRules.Regex.Feed

A pattern as reading takes it: single characters, and backslashes together with the character
behind them. Every piece knows its offset. A backslash with nothing behind it is a fault as soon as
everything before it has been taken, so what is taken is always followed by `settled` or `seen`.
-/

namespace CommitRules.Regex

open CommitRules.Text

/-- The part of a pattern still to be read. -/
inductive Feed where
  | done (offset : Nat)
  /-- A backslash at the end of the pattern. -/
  | loose (offset : Nat)
  | char (offset : Nat) (c : Char) (rest : Feed)
  /-- A backslash and the character behind it. -/
  | escape (offset : Nat) (c : Char) (rest : Feed)
  deriving DecidableEq, Repr

namespace Feed

/-- The pieces of a pattern whose first character has the given offset. -/
def ofChars (offset : Nat) : List Char → Feed
  | [] => .done offset
  | c :: rest =>
    if c = backslash then
      match rest with
      | [] => .loose offset
      | d :: rest => .escape offset d (ofChars (offset + 2) rest)
    else .char offset c (ofChars (offset + 1) rest)

def offset : Feed → Nat
  | .done offset | .loose offset | .char offset _ _ | .escape offset _ _ => offset

def size : Feed → Nat
  | .done _ | .loose _ => 0
  | .char _ _ rest | .escape _ _ rest => rest.size + 1

/-- Looks at the next piece, which must not be a loose backslash, and goes on. -/
def seen {α : Type} (feed : Feed) (next : Except Fault α) : Except Fault α :=
  match feed with
  | .loose offset => .error (.malformed .looseBackslash offset)
  | _ => next

/-- What is left, if it does not start with a loose backslash. -/
def settled (feed : Feed) : Except Fault Feed := feed.seen (.ok feed)

/-- Refuses the pattern for something at the next piece. -/
def refuse {α : Type} (feed : Feed) (cause : Cause) : Except Fault α :=
  .error (.malformed cause feed.offset)

/-- Refuses the pattern for something that starts `less` characters before the next piece. -/
def refuseBack {α : Type} (feed : Feed) (less : Nat) (cause : Cause) : Except Fault α :=
  .error (.malformed cause (feed.offset - less))

/-- The next piece as it is written, and what is left behind it. -/
def next? : Feed → Option (List Char × Feed)
  | .done _ | .loose _ => none
  | .char _ c rest => some ([c], rest)
  | .escape _ c rest => some ([backslash, c], rest)

/-- Takes `mark` if it comes next; says whether it did. -/
def taking (feed : Feed) (mark : Char) : Except Fault (Bool × Feed) :=
  match feed with
  | .char _ c rest => if c = mark then rest.seen (.ok (true, rest)) else .ok (false, feed)
  | _ => .ok (false, feed)

/-- Takes characters with a property, at most `limit` of them. -/
def takeUpTo (holds : Char → Bool) : Nat → Feed → Except Fault (List Char × Feed)
  | limit + 1, .char offset c rest =>
    if holds c then
      rest.seen ((takeUpTo holds limit rest).map fun (taken, feed) => (c :: taken, feed))
    else .ok ([], .char offset c rest)
  | _, feed => .ok ([], feed)

/-- Takes characters with a property, as many as there are. -/
def takeAll (holds : Char → Bool) : Feed → Except Fault (List Char × Feed)
  | .char offset c rest =>
    if holds c then
      rest.seen ((takeAll holds rest).map fun (taken, feed) => (c :: taken, feed))
    else .ok ([], .char offset c rest)
  | feed => .ok ([], feed)

/-- Takes a name up to `mark` and the mark. `taken` holds what has been taken, last piece first;
`what` says what kind of name it is. -/
def takeName (mark : Char) (what : String) (taken : List (List Char)) :
    Feed → Except Fault (List Char × Feed)
  | .char _ c rest =>
    rest.seen <|
      if c = mark then
        if taken.isEmpty then rest.refuseBack 1 (.missing what)
        else .ok (taken.reverse.flatten, rest)
      else takeName mark what ([c] :: taken) rest
  | .escape _ c rest => rest.seen (takeName mark what ([backslash, c] :: taken) rest)
  | feed =>
    if taken.isEmpty then feed.refuse (.missing what)
    else feed.refuseBack taken.flatten.length (.unterminatedName mark)

/-- Skips everything up to the next `mark`, and the mark. Says whether there was one; if not, the
pattern has been skipped to its end. -/
def skipPast (mark : Char) : Feed → Except Fault (Bool × Feed)
  | .char _ c rest => rest.seen (if c = mark then .ok (true, rest) else skipPast mark rest)
  | .escape _ _ rest => rest.seen (skipPast mark rest)
  | feed => .ok (false, feed)

end Feed

end CommitRules.Regex
