import CommitRules.Text.Quoted
import CommitRules.Value

/-!
# CommitRules.Json

Writing a document as JSON on one line: the keys of a table in order, everything outside ASCII
escaped.
-/

namespace CommitRules.Json

open CommitRules.Text

def escapeUnit (unit : Nat) : List Char := backslash :: 'u' :: hexDigits 4 unit

/-- A character inside quotation marks. -/
def escapeChar (c : Char) : List Char :=
  let code := c.toNat
  if c = quotationMark || c = backslash then [backslash, c]
  else if 32 ≤ code && code < 127 then [c]
  else if code = 8 then [backslash, 'b']
  else if code = 9 then [backslash, 't']
  else if code = 10 then [backslash, 'n']
  else if code = 12 then [backslash, 'f']
  else if code = 13 then [backslash, 'r']
  else if code < 0x10000 then escapeUnit code
  else
    escapeUnit (0xD800 + (code - 0x10000) / 0x400) ++ escapeUnit (0xDC00 + (code - 0x10000) % 0x400)

def writeText (text : String) : String :=
  String.ofList (quotationMark :: text.toList.flatMap escapeChar ++ [quotationMark])

/-- The entries of a table, each already written, in the order of their keys. -/
def sortEntries (entries : List (String × String)) : List (String × String) :=
  entries.mergeSort fun a b => !(b.1 < a.1)

mutual

def write : Value → String
  | .null => "null"
  | .bool true => "true"
  | .bool false => "false"
  | .int value => toString value
  | .decimal text => text
  | .moment text => writeText text
  | .text value => writeText value
  | .list items => "[" ++ ", ".intercalate (writeAll items) ++ "]"
  | .table entries =>
    let written := (sortEntries (writeEntries entries)).map fun entry =>
      writeText entry.1 ++ ": " ++ entry.2
    "\x7b" ++ ", ".intercalate written ++ "\x7d"

def writeAll : List Value → List String
  | [] => []
  | item :: items => write item :: writeAll items

/-- The entries of a table with their values as JSON. -/
def writeEntries : List (String × Value) → List (String × String)
  | [] => []
  | (key, value) :: entries => (key, write value) :: writeEntries entries

end

end CommitRules.Json
