import CommitRules.Toml.Number
import CommitRules.Toml.Store

/-!
# CommitRules.Toml.Document

TOML documents: values, which may hold other values, and statements, one a line.
-/

namespace CommitRules.Toml

open CommitRules.Text

/-- An inline table that is being read. -/
structure Inline where
  table : Table
  marks : Marks

def Inline.set (inline : Inline) (key : List String) (value : Value) (rest : List Char) :
    Except Stop Inline := do
  if inline.marks.bears key .fixed then refuse rest (.namespaceFixed key)
  let last := key.getLast?.getD ""
  let obstacle := Stop.refused .overwritten rest.length
  let duplicate := Stop.refused (.duplicateKey last) rest.length
  let table ← alter obstacle false (Store.addEntry last value duplicate) key.dropLast inline.table
  return { inline with table }

/-- Marks the value of a key as it must stay. -/
def Inline.close (inline : Inline) (key : List String) (value : Value) : Inline :=
  if Store.isClosed value then { inline with marks := inline.marks.add key .fixed } else inline

/-- Reads a number that is not one, or is beyond all numbers. -/
def readSpecial? (text : List Char) : Option (Value × List Char) :=
  let names := ["inf", "nan", "-inf", "+inf", "-nan", "+nan"]
  (names.find? fun name => name.toList.isPrefixOf text).map fun name =>
    (.decimal name, text.drop name.length)

/-- Reads a value that holds no other one and starts with none of the marks of texts, arrays and
inline tables. -/
def readSimple (text : List Char) : Except Stop (Value × List Char) := do
  if "true".toList.isPrefixOf text then return (.bool true, text.drop 4)
  if "false".toList.isPrefixOf text then return (.bool false, text.drop 5)
  match ← readMoment text with
  | some found => return found
  | none =>
    match ← readNumber text with
    | some found => return found
    | none =>
      match readSpecial? text with
      | some found => return found
      | none => refuse text .badValue

/-- Reads a text whose first mark, of the kind `mark`, has been read. -/
def readTextBehind (mark : Char) (text : List Char) : Except Stop (String × List Char) :=
  let several := text.take 2 = [mark, mark]
  if mark = quotationMark then
    if several then readQuotedLines (text.drop 2) else readQuoted text
  else
    if several then readPlainLines (text.drop 2) else readPlain text

mutual

/-- Reads a value; `fuel` bounds the depth and the number of values. -/
def readValue : Nat → List Char → Except Stop (Value × List Char)
  | 0, text => refuse text .badValue
  | _ + 1, [] => refuse [] .badValue
  | fuel + 1, c :: rest => do
    if c = quotationMark || c = apostrophe then
      let (found, rest) ← readTextBehind c rest
      return (.text found, rest)
    else if c = '[' then
      let rest ← skipFiller (rest.length + 1) rest
      match rest with
      | ']' :: rest => return (.list [], rest)
      | rest => readItems fuel [] rest
    else if c = '{' then
      match skipSpace rest with
      | '}' :: rest => return (.table [], rest)
      | rest => readEntries fuel ⟨[], []⟩ rest
    else readSimple (c :: rest)

/-- Reads the items of an array up to its closing bracket; `items` holds those read, last first. -/
def readItems : Nat → List Value → List Char → Except Stop (Value × List Char)
  | 0, _, text => refuse text .openArray
  | fuel + 1, items, text => do
    let (item, rest) ← readValue fuel text
    let rest ← skipFiller (rest.length + 1) rest
    match rest with
    | ']' :: rest => return (.list (item :: items).reverse, rest)
    | ',' :: rest =>
      let rest ← skipFiller (rest.length + 1) rest
      match rest with
      | ']' :: rest => return (.list (item :: items).reverse, rest)
      | rest => readItems fuel (item :: items) rest
    | rest => refuse rest .openArray

/-- Reads the entries of an inline table up to its closing brace. -/
def readEntries : Nat → Inline → List Char → Except Stop (Value × List Char)
  | 0, _, text => refuse text .openTable
  | fuel + 1, inline, text => do
    let (key, value, rest) ← readPair fuel text
    let inline ← inline.set key value rest
    match skipSpace rest with
    | '}' :: rest => return (.table inline.table, rest)
    | ',' :: rest => readEntries fuel (inline.close key value) (skipSpace rest)
    | rest => refuse rest .openTable

def readPair : Nat → List Char → Except Stop (List String × Value × List Char)
  | 0, text => refuse text .badKey
  | fuel + 1, text => do
    let (key, rest) ← readKey (text.length + 1) text
    match rest with
    | '=' :: rest =>
      let (value, rest) ← readValue fuel (skipSpace rest)
      return (key, value, rest)
    | rest => refuse rest .noEquals

end

/-- Reads a header behind its first bracket. -/
def readHeader (store : Store) (text : List Char) : Except Stop (Store × List Char) := do
  let store := store.settle
  match text with
  | '[' :: text =>
    let (key, rest) ← readKey (text.length + 1) (skipSpace text)
    let store ← store.openListTable key rest
    match rest with
    | ']' :: ']' :: rest => return (store, rest)
    | rest => refuse rest .noArrayTableEnd
  | text =>
    let (key, rest) ← readKey (text.length + 1) (skipSpace text)
    let store ← store.openTable key rest
    match rest with
    | ']' :: rest => return (store, rest)
    | rest => refuse rest .noTableEnd

/-- Reads a statement that starts with `c`. A comment is left for later. -/
def readStatement (store : Store) (c : Char) (rest : List Char) :
    Except Stop (Store × List Char) := do
  if startsKey c then
    let (key, value, rest) ← readPair (2 * rest.length + 4) (c :: rest)
    return (← store.set key value rest, skipSpace rest)
  else if c = '[' then
    let (store, rest) ← readHeader store rest
    return (store, skipSpace rest)
  else if c = '#' then return (store, c :: rest)
  else refuse (c :: rest) .badStatement

/-- Reads the lines of a document; `fuel` bounds their number. -/
def readLines : Nat → Store → List Char → Except Stop Store
  | 0, store, _ => .ok store
  | fuel + 1, store, text => do
    match skipSpace text with
    | [] => return store
    | '\n' :: rest => readLines fuel store rest
    | c :: rest =>
      let (store, rest) ← readStatement store c rest
      let rest ← skipComment rest
      match rest with
      | [] => return store
      | '\n' :: rest => readLines fuel store rest
      | rest => refuse rest .noLineEnd

def readDocument (document : List Char) : Except Stop Table :=
  (readLines (document.length + 1) .empty document).map (·.table)

/-- Reads a file; a carriage return in front of a line feed does not count. What is wrong with the
document is told apart from bytes that are no text and from a number that is too long. -/
def readBytes (bytes : List UInt8) : Except Failure (Except String Table) :=
  match Utf8.decodeChars bytes with
  | .error fault => .error (.undecodable fault)
  | .ok chars =>
    let document := unifyReturnPairs chars
    match readDocument document with
    | .ok table => .ok (.ok table)
    | .error (.refused cause left) =>
      .ok (.error ((Stop.refused cause left).message document))
    | .error (.numeralTooLong digits) =>
      .error (.badValue ((Stop.numeralTooLong digits).message document))

end CommitRules.Toml
