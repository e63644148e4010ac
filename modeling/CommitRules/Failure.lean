import CommitRules.Text.Quoted
import CommitRules.Text.Utf8

/-!
# CommitRules.Failure

Everything that can go wrong on the way from a commit to a report, by kind, each with its message.
-/

namespace CommitRules

open CommitRules.Text

inductive SystemError where
  | noEntry
  | alreadyExists
  | notDirectory
  | isDirectory
  | nameTooLong
  deriving DecidableEq, Repr

namespace SystemError

def number : SystemError → Nat
  | .noEntry => 2
  | .alreadyExists => 17
  | .notDirectory => 20
  | .isDirectory => 21
  | .nameTooLong => 36

def wording : SystemError → String
  | .noEntry => "No such file or directory"
  | .alreadyExists => "File exists"
  | .notDirectory => "Not a directory"
  | .isDirectory => "Is a directory"
  | .nameTooLong => "File name too long"

end SystemError

inductive Failure where
  | config (message : String)
  /-- No configuration where one is looked for. -/
  | noConfig
  /-- Git did not do what it was asked to. -/
  | git (message : String)
  /-- A file that was to be read is not there. -/
  | noFile (path : String)
  /-- The file system refuses something; `subject` names it as messages show it. -/
  | system (error : SystemError) (subject : String)
  /-- A value that is out of the question. -/
  | badValue (message : String)
  /-- A number that is too large to work with. -/
  | tooLarge (message : String)
  | undecodable (fault : Utf8.Fault)
  | badPattern (message : String)
  deriving DecidableEq, Repr

namespace Failure

def message : Failure → String
  | .config message => message
  | .noConfig => "Configuration file not found"
  | .git message => message
  | .noFile path => "File does not exist: " ++ path
  | .system error subject => s!"[Errno {error.number}] " ++ error.wording ++ ": " ++ subject
  | .badValue message => message
  | .tooLarge message => message
  | .undecodable fault => fault.message
  | .badPattern message => message

/-- A text that the system takes up to its first NUL only. -/
def embeddedNul : Failure := .badValue "embedded null byte"

end Failure

end CommitRules
