import CommitRules.Check.Run

/-!
# CommitRules.Report.Ledger

What a report is made from: the rules that have been applied and the files they concern, each
mentioned once, in the order of the first mention, and every violation in order.
-/

namespace CommitRules

/-- A file that breaks a rule, as it was reported. -/
structure Violation where
  file : String
  rule : Rule
  level : Level
  deriving DecidableEq, Repr

structure Ledger where
  rules : List String
  matched : List String
  violations : List Violation
  deriving DecidableEq, Repr

/-- A list with an item it did not hold before at its end. -/
def addOnce (items : List String) (item : String) : List String :=
  if items.contains item then items else items ++ [item]

theorem mem_addOnce {items : List String} {item other : String} :
    other ∈ addOnce items item ↔ other ∈ items ∨ other = item := by
  rw [addOnce]
  split
  · next h =>
    have hmem : item ∈ items := List.contains_iff_mem.1 h
    constructor
    · exact Or.inl
    · rintro (h | rfl)
      · exact h
      · exact hmem
  · simp

theorem nodup_addOnce {items : List String} (h : items.Nodup) (item : String) :
    (addOnce items item).Nodup := by
  rw [addOnce]
  split
  · exact h
  · next hc =>
    have hmem : item ∉ items := fun hm => hc (List.contains_iff_mem.2 hm)
    rw [List.nodup_append]
    refine ⟨h, by simp, ?_⟩
    intro a ha b hb
    rw [List.mem_singleton] at hb
    exact fun hab => hmem (hb ▸ hab ▸ ha)

namespace Ledger

def empty : Ledger := ⟨[], [], []⟩

def note (ledger : Ledger) : Event → Ledger
  | .matched file => { ledger with matched := addOnce ledger.matched file }
  | .violation file rule level =>
    { ledger with violations := ledger.violations ++ [⟨file, rule, level⟩] }
  | .processed rule _ => { ledger with rules := addOnce ledger.rules rule.label }
  | _ => ledger

def noteAll (ledger : Ledger) (trace : List Event) : Ledger := trace.foldl note ledger

end Ledger

end CommitRules
