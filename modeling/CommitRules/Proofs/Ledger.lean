import CommitRules.Proofs.Runs
import CommitRules.Report.Ledger

/-!
# CommitRules.Proofs.Ledger

What a trace adds to a ledger: the labels of the rules applied and the files matched, each at most
once, and every violation.

* `noteAll_eq`: the three parts of a ledger after a trace, each from its own part of the trace.
* `noteAll_toldIn`: only what is told to a listener counts.
-/

namespace CommitRules

/-! ## Adding once -/

/-- A list with the items of another one it did not hold before at its end. -/
def addAll (items more : List String) : List String := more.foldl addOnce items

theorem mem_addAll {items more : List String} {item : String} :
    item ∈ addAll items more ↔ item ∈ items ∨ item ∈ more := by
  induction more generalizing items with
  | nil => simp [addAll]
  | cons first more ih =>
    rw [addAll, List.foldl_cons, ← addAll, ih, mem_addOnce, List.mem_cons, or_assoc]

theorem addAll_of_subset {items more : List String} (h : more ⊆ items) :
    addAll items more = items := by
  induction more with
  | nil => rfl
  | cons first more ih =>
    obtain ⟨hfirst, hmore⟩ := List.cons_subset.1 h
    rw [addAll, List.foldl_cons, ← addAll, addOnce, if_pos (List.contains_iff_mem.2 hfirst)]
    exact ih hmore

/-! ## Traces -/

/-- Whether an event is told to whoever listens to a check; the others are about git only. -/
def Event.isTold : Event → Bool
  | .matched _ | .violation _ _ _ | .processed _ _ => true
  | .asked _ | .loaded _ _ => false

/-- What is told to whoever listens to a check. -/
def toldIn (trace : List Event) : List Event := trace.filter Event.isTold

theorem toldIn_append (first second : List Event) :
    toldIn (first ++ second) = toldIn first ++ toldIn second := List.filter_append ..

theorem toldIn_bind {α β : Type} {first : Run α} {next : α → Run β}
    (hfirst : toldIn first.trace = []) (hnext : ∀ value, toldIn (next value).trace = []) :
    toldIn (first >>= next).trace = [] := by
  cases ho : first.outcome with
  | error failure => rw [Run.bind_of_error ho]; exact hfirst
  | ok value => rw [Run.bind_of_ok ho, toldIn_append, hfirst, hnext]; rfl

theorem toldIn_bind_of_ok {α β : Type} {first : Run α} {next : α → Run β} {value : α}
    (hok : first.outcome = .ok value) (hfirst : toldIn first.trace = []) :
    toldIn (first >>= next).trace = toldIn (next value).trace := by
  rw [Run.bind_of_ok hok, toldIn_append, hfirst, List.nil_append]

/-- The label of the rule that an event tells to have been applied. -/
def Event.label? : Event → Option String
  | .processed rule _ => some rule.label
  | _ => none

def Event.matched? : Event → Option String
  | .matched file => some file
  | _ => none

def Event.violation? : Event → Option Violation
  | .violation file rule level => some ⟨file, rule, level⟩
  | _ => none

namespace Ledger

theorem noteAll_eq (ledger : Ledger) (trace : List Event) :
    ledger.noteAll trace =
      ⟨addAll ledger.rules (trace.filterMap Event.label?),
        addAll ledger.matched (trace.filterMap Event.matched?),
        ledger.violations ++ trace.filterMap Event.violation?⟩ := by
  induction trace generalizing ledger with
  | nil => simp [noteAll, addAll]
  | cons event trace ih =>
    rw [noteAll, List.foldl_cons, ← noteAll, ih]
    cases event <;>
      simp [note, List.filterMap_cons, Event.label?, Event.matched?, Event.violation?, addAll]

theorem noteAll_toldIn (ledger : Ledger) (trace : List Event) :
    ledger.noteAll (toldIn trace) = ledger.noteAll trace := by
  induction trace generalizing ledger with
  | nil => rfl
  | cons event trace ih =>
    cases event <;> simp [toldIn, noteAll, note, Event.isTold] <;> exact ih _

/-- Nothing that has been reported is lost. -/
theorem noteAll_mono (ledger : Ledger) (trace : List Event) :
    ledger.rules ⊆ (ledger.noteAll trace).rules ∧
      ledger.matched ⊆ (ledger.noteAll trace).matched := by
  rw [noteAll_eq]
  exact ⟨fun _ h => mem_addAll.2 (.inl h), fun _ h => mem_addAll.2 (.inl h)⟩

end Ledger

end CommitRules
