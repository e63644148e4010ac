import CommitRules.Text.Ranges

/-!
# CommitRules.Text.Terminal

Looks that a terminal gives to a text: a command before the text for each of them, and one behind it
that ends them all. `plain` takes all such commands out again, for output that no terminal shows.
-/

namespace CommitRules.Text

/-- Looks a terminal can give to a text. -/
inductive Style where
  | bold
  | dim
  | underline
  | red
  | green
  | yellow
  deriving DecidableEq, Repr

def Style.code : Style → Nat
  | .bold => 1
  | .dim => 2
  | .underline => 4
  | .red => 31
  | .green => 32
  | .yellow => 33

/-- The character that begins a command to a terminal. -/
def escapeMark : Char := Char.ofNat 27

/-- The command for a look; number 0 ends all looks. -/
def styleCommand (code : Nat) : String := String.singleton escapeMark ++ s!"[{code}m"

/-- A text with looks, which end behind it. -/
def styled (styles : List Style) (text : String) : String :=
  String.join (styles.map fun style => styleCommand style.code) ++ text ++ styleCommand 0

/-- Holds of the characters between a command's bracket and the letter that ends it. -/
def isCommandArgument (c : Char) : Bool := c = ';' || c = '?' || ('0' ≤ c && c ≤ '9')

/-- Holds of the letters that end a command. -/
def endsCommand (c : Char) : Bool := ('a' ≤ c && c ≤ 'z') || ('A' ≤ c && c ≤ 'Z')

/-- The number of characters of a command behind its first one, if the text behind that makes it a
command. -/
def commandLength? (text : List Char) : Option Nat :=
  match text with
  | '[' :: rest =>
    let arguments := rest.takeWhile isCommandArgument
    match rest.dropWhile isCommandArgument with
    | c :: _ => if endsCommand c then some (arguments.length + 2) else none
    | [] => none
  | _ => none

/-- A text without commands to a terminal, behind its first `skip` characters. -/
def plainBehind : Nat → List Char → List Char
  | _, [] => []
  | skip + 1, _ :: rest => plainBehind skip rest
  | 0, c :: rest =>
    if c = escapeMark then
      match commandLength? rest with
      | some length => plainBehind length rest
      | none => c :: plainBehind 0 rest
    else c :: plainBehind 0 rest

/-- A text without commands to a terminal. -/
def plain (text : String) : String := String.ofList (plainBehind 0 text.toList)

end CommitRules.Text
