/-!
# CommitRules.Value

Documents: what a configuration file holds before it is known to be a configuration, and what a
report holds before it is written out. Numbers with a fraction and moments of time are kept as they
are written, since nothing is computed from them.
-/

namespace CommitRules

/-- A document. The keys of a table are different from one another. -/
inductive Value where
  | null
  | bool (value : Bool)
  | int (value : Int)
  | decimal (text : String)
  | moment (text : String)
  | text (value : String)
  | list (items : List Value)
  | table (entries : List (String × Value))
  deriving Repr, Inhabited

/-- The entries of a table. -/
abbrev Table := List (String × Value)

namespace Table

/-- The value of a key; a key that is not there counts as null. -/
def get (table : Table) (key : String) : Value := (table.lookup key).getD .null

def keys (table : Table) : List String := table.map (·.1)

end Table

end CommitRules
