import CommitRules.Files.Tree
import CommitRules.Text.Utf8

/-!
# CommitRules.Files.Head

The head of a file: its first lines. Bytes that are not a text are read as replacement characters,
and every kind of line end as one.
-/

namespace CommitRules.Files

open CommitRules.Text

/-- The text of a file, whatever its bytes. -/
def textOf (bytes : List UInt8) : List Char := unifyNewlines (Utf8.decodeLossy bytes)

/-- The first `count` lines of a text. -/
def firstLines (count : Nat) (text : List Char) : List Char :=
  joinWith '\n' ((lines text).take count)

/-- The greatest number of lines that can be asked for. -/
def headLimit : Int := 0x7FFFFFFFFFFFFFFF

def badHeadMessage : String :=
  "Stop argument for islice() must be None or an integer: 0 <= x <= sys.maxsize."

/-- The first `count` lines of the file a path leads to. -/
def readHead (tree : Tree) (path : String) (count : Int) : Except Failure (List Char) := do
  let path := Path.ofText path
  if !(← tree.exists? path) then .error (.noFile path.text)
  let bytes ← tree.read path
  if count < 0 || headLimit < count then .error (.badValue badHeadMessage)
  return firstLines count.toNat (textOf bytes)

end CommitRules.Files
