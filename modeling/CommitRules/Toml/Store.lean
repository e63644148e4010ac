import CommitRules.Toml.Stop
import CommitRules.Value

/-!
# CommitRules.Toml.Store

What has been read of a document, and what may still be done to it. A table may be opened by a
header once, and not at all if a key with dots has made it; what was written as an array or an
inline table stays as it is.
-/

namespace CommitRules.Toml

/-- What may not be done to a key. -/
inductive Mark where
  /-- Opened by a header or made by a key with dots: no header may open it. -/
  | opened
  /-- An array or an inline table: nothing in it may change. -/
  | fixed
  deriving DecidableEq, Repr

/-- The marks that keys bear. One that bears `fixed` passes it on to all keys below it. -/
abbrev Marks := List (List String × Mark)

namespace Marks

/-- Whether a key bears a mark, by itself or because of a key above it. -/
def bears (marks : Marks) (key : List String) (mark : Mark) : Bool :=
  marks.any fun (marked, other) =>
    other == mark && (marked == key || (mark == .fixed && marked.isPrefixOf key))

def add (marks : Marks) (key : List String) (mark : Mark) : Marks := (key, mark) :: marks

/-- Takes all marks off a key and the keys below it. -/
def clear (marks : Marks) (key : List String) : Marks :=
  marks.filter fun (marked, _) => !key.isPrefixOf marked

end Marks

/-- Something other than a table stands where a table is needed. -/
inductive Obstacle where
  | overwritten
  deriving DecidableEq, Repr

def setEntry (table : Table) (key : String) (value : Value) : Table :=
  match table with
  | [] => [(key, value)]
  | (other, old) :: rest =>
    if other = key then (key, value) :: rest else (other, old) :: setEntry rest key value

/-- Changes the table a key leads to; tables on the way are made where there is nothing. With
`intoLists`, a list stands for the last table in it. -/
def alter {ε : Type} (obstacle : ε) (intoLists : Bool) (change : Table → Except ε Table) :
    List String → Table → Except ε Table
  | [], table => change table
  | key :: keys, table =>
    match table.lookup key with
    | none => do
      return setEntry table key (.table (← alter obstacle intoLists change keys []))
    | some (.table inner) => do
      return setEntry table key (.table (← alter obstacle intoLists change keys inner))
    | some (.list items) =>
      match intoLists, items.getLast? with
      | true, some (.table inner) => do
        let inner ← alter obstacle intoLists change keys inner
        return setEntry table key (.list (items.dropLast ++ [.table inner]))
      | _, _ => .error obstacle
    | some _ => .error obstacle

/-- A document that is being read. -/
structure Store where
  table : Table
  marks : Marks
  /-- Keys that bear `opened` from the next header on. -/
  pending : List (List String)
  /-- The key of the header that was read last. -/
  header : List String

namespace Store

def empty : Store := ⟨[], [], [], []⟩

/-- Lets the pending marks take effect. -/
def settle (store : Store) : Store :=
  { store with
    marks := store.pending.foldl (fun marks key => marks.add key .opened) store.marks
    pending := [] }

def openTable (store : Store) (key : List String) (rest : List Char) : Except Stop Store := do
  if store.marks.bears key .opened || store.marks.bears key .fixed then
    refuse rest (.declaredTwice key)
  let table ← alter (Stop.refused .overwritten rest.length) true .ok key store.table
  return { store with table, marks := store.marks.add key .opened, header := key }

def pushTable (last : String) (obstacle : Stop) (table : Table) : Except Stop Table :=
  match table.lookup last with
  | none => .ok (setEntry table last (.list [.table []]))
  | some (.list items) => .ok (setEntry table last (.list (items ++ [.table []])))
  | some _ => .error obstacle

def openListTable (store : Store) (key : List String) (rest : List Char) :
    Except Stop Store := do
  if store.marks.bears key .fixed then refuse rest (.namespaceFixed key)
  let obstacle := Stop.refused .overwritten rest.length
  let last := key.getLast?.getD ""
  let table ← alter obstacle true (pushTable last obstacle) key.dropLast store.table
  return { store with table, marks := (store.marks.clear key).add key .opened, header := key }

/-- Whether what a value holds may not be changed later. -/
def isClosed : Value → Bool
  | .list _ | .table _ => true
  | _ => false

/-- Refuses a key with dots that leads through a table that a header has opened. -/
def checkWay (store : Store) (ways : List (List String)) (rest : List Char) :
    Except Stop Unit :=
  match ways.find? fun way => store.marks.bears way .opened with
  | some way => refuse rest (.namespaceRedefined way)
  | none => .ok ()

/-- Sets an entry that must not be there yet. -/
def addEntry (key : String) (value : Value) (obstacle : Stop) (table : Table) :
    Except Stop Table :=
  if (table.lookup key).isSome then .error obstacle else .ok (setEntry table key value)

/-- Sets a key below the header that was read last. -/
def set (store : Store) (key : List String) (value : Value) (rest : List Char) :
    Except Stop Store := do
  let ways := (List.range key.length).drop 1 |>.map fun n => store.header ++ key.take n
  store.checkWay ways rest
  let above := store.header ++ key.dropLast
  if store.marks.bears above .fixed then refuse rest (.namespaceFixed above)
  let obstacle := Stop.refused .overwritten rest.length
  let table ← alter obstacle true (addEntry (key.getLast?.getD "") value obstacle) above store.table
  let marks := if isClosed value then store.marks.add (store.header ++ key) .fixed else store.marks
  return { store with table, marks, pending := store.pending ++ ways }

end Store

end CommitRules.Toml
