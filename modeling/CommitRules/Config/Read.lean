import CommitRules.Rule

/-!
# CommitRules.Config.Read

Reading a configuration from a document. Everything is checked in a fixed order and the first thing
that is wrong is reported: the keys of the document, then one rule after the other, and of each rule
its keys, then `files`, `head`, `pattern`, `level` and `find`.
-/

namespace CommitRules

def refuseConfig {α : Type} (message : String) : Except Failure α := .error (.config message)

/-- The keys that are not allowed, in alphabetical order. -/
def unknownKeys (table : Table) (allowed : List String) : List String :=
  (table.keys.filter fun key => !allowed.contains key).mergeSort fun a b => !(b < a)

def checkKeys (table : Table) (allowed : List String) (field : String) : Except Failure Unit :=
  match unknownKeys table allowed with
  | [] => .ok ()
  | keys => refuseConfig (field ++ " has unknown keys: " ++ ", ".intercalate keys)

/-- The texts of a list that holds nothing else. -/
def allTexts? : List Value → Option (List String)
  | [] => some []
  | .text text :: rest => (allTexts? rest).map (text :: ·)
  | _ :: _ => none

def readText (value : Value) (field : String) : Except Failure String :=
  match value with
  | .text text => .ok text
  | _ => refuseConfig (field ++ " must be a string")

def readFiles (value : Value) (field : String) : Except Failure FileScope :=
  let refuse := refuseConfig (field ++ " must be a string or a non-empty list of strings")
  match value with
  | .null => .ok .all
  | .text glob => .ok (.one glob)
  | .list (item :: items) =>
    match allTexts? (item :: items) with
    | some globs => .ok (.several globs)
    | none => refuse
  | _ => refuse

/-- Reads how many lines at the head of a file count. -/
def readHeadCount (value : Option Value) (field : String) : Except Failure Nat :=
  match value with
  | none => .ok defaultHead
  | some (.int count) =>
    if count ≤ 0 then refuseConfig (field ++ " must be > 0") else .ok count.toNat
  | some _ => refuseConfig (field ++ " must be an integer")

def readLevel (value : Value) (field : String) : Except Failure Level :=
  let refuse :=
    refuseConfig (field ++ " must be one of: " ++ ", ".intercalate (Level.all.map Level.name))
  match value with
  | .text name =>
    match Level.ofName? name with
    | some level => .ok level
    | none => refuse
  | _ => refuse

/-- Reads a regular expression. What its own text or its flags make wrong is an error of the
configuration; a repetition count that is too large is passed on as it is. -/
def readRegex (table : Table) (field : String) : Except Failure Find := do
  checkKeys table ["regex", "flags"] field
  let source ← readText (table.get "regex") (field ++ ".regex")
  let flags ← readText ((table.lookup "flags").getD (.text "")) (field ++ ".flags")
  match RegexPattern.ofSource source flags with
  | .ok pattern => return .regex pattern
  | .error (.badPattern message) =>
    refuseConfig (field ++ ".regex is not a valid regular expression: " ++ message)
  | .error (.badValue message) => refuseConfig (field ++ ".flags: " ++ message)
  | .error failure => .error failure

def readFind (value : Value) (field : String) : Except Failure (Option Find) :=
  match value with
  | .null => .ok none
  | .text text => .ok (some (.literal text))
  | .list items =>
    match allTexts? items with
    | some options => .ok (some (.anyOf options))
    | none => refuseConfig (field ++ " must be a list of strings")
  | .table table => (readRegex table field).map some
  | _ => refuseConfig (field ++ " must be a string, a list of strings or a regex table")

def ruleKeys : List String := ["files", "pattern", "level", "find", "head"]

def readRule (table : Table) (field : String) : Except Failure Rule := do
  checkKeys table ruleKeys field
  let files ← readFiles (table.get "files") (field ++ ".files")
  let head ← readHeadCount (table.lookup "head") (field ++ ".head")
  let label ← readText (table.get "pattern") (field ++ ".pattern")
  let level ← readLevel (table.get "level") (field ++ ".level")
  let find ← readFind (table.get "find") (field ++ ".find")
  return { label, level, files, find, head }

/-- Reads rules, the first of which has the number `index`. -/
def readRules (index : Nat) : List Value → Except Failure (List Rule)
  | [] => .ok []
  | .table table :: rest => do
    let rule ← readRule table s!"rules[{index}]"
    return rule :: (← readRules (index + 1) rest)
  | _ :: _ => refuseConfig s!"rules[{index}] must be a table/object"

def readConfig (document : Table) (source : Option String) : Except Failure Config := do
  checkKeys document ["rules"] "config"
  match document.get "rules" with
  | .null => return ⟨[], source⟩
  | .list items => return ⟨← readRules 0 items, source⟩
  | _ => refuseConfig "rules must be a list of tables"

end CommitRules
