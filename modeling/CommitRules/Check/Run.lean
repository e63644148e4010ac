import CommitRules.Failure
import CommitRules.Rule

/-!
# CommitRules.Check.Run

Computations that leave a trace. A run ends in a result or in a failure, and what has happened up to
then stays: `trace` lists it in order.
-/

namespace CommitRules

inductive Event where
  | asked (arguments : List String)
  /-- The change of a commit was fetched, so many characters long. -/
  | loaded (commit : String) (length : Nat)
  /-- What stands at the head of a file makes a rule concern it. -/
  | matched (file : String)
  | violation (file : String) (rule : Rule) (level : Level)
  /-- A rule has been applied; it concerns the files. -/
  | processed (rule : Rule) (files : List String)
  deriving DecidableEq, Repr

/-- The line an event leaves in the log, if any. -/
def Event.record? : Event → Option String
  | .loaded commit length =>
    some s!"INFO scanva.diff_processor: Loaded diff for {commit} ({length} bytes)"
  | .violation file rule level =>
    some ("INFO scanva.rule_processor: Flagged violation - File: " ++ file ++ ", Rule: " ++
      rule.label ++ ", Error Level: " ++ level.name)
  | .processed _ files =>
    some (s!"INFO scanva.rule_processor: Rule found matches in {files.length} files: " ++
      ", ".intercalate files)
  | _ => none

/-- A computation that leaves a trace and may fail. -/
structure Run (α : Type) where
  trace : List Event
  outcome : Except Failure α

namespace Run

def done {α : Type} (result : α) : Run α := ⟨[], .ok result⟩

/-- Nothing happens but a failure, if there is one. -/
def ofExcept {α : Type} (outcome : Except Failure α) : Run α := ⟨[], outcome⟩

def note (event : Event) : Run Unit := ⟨[event], .ok ()⟩

/-- One run, and then, unless it fails, another one. -/
def andThen {α β : Type} (run : Run α) (next : α → Run β) : Run β :=
  match run.outcome with
  | .ok result => ⟨run.trace ++ (next result).trace, (next result).outcome⟩
  | .error failure => ⟨run.trace, .error failure⟩

instance : Monad Run where
  pure := done
  bind := andThen

/-- A run for every item, in order, until one fails. -/
def each {α β : Type} (run : α → Run β) : List α → Run (List β)
  | [] => done []
  | item :: items => do
    let result ← run item
    let results ← each run items
    return result :: results

theorem andThen_ok {α β : Type} {run : Run α} {next : α → Run β} {result : α}
    (h : run.outcome = .ok result) :
    run.andThen next = ⟨run.trace ++ (next result).trace, (next result).outcome⟩ := by
  simp [andThen, h]

theorem andThen_error {α β : Type} {run : Run α} {next : α → Run β} {failure : Failure}
    (h : run.outcome = .error failure) :
    run.andThen next = ⟨run.trace, .error failure⟩ := by
  simp [andThen, h]

theorem andThen_done {α : Type} (run : Run α) : run.andThen done = run := by
  cases run with
  | mk trace outcome => cases outcome <;> simp [andThen, done]

theorem andThen_assoc {α β γ : Type} (run : Run α) (next : α → Run β) (last : β → Run γ) :
    (run.andThen next).andThen last = run.andThen fun result => (next result).andThen last := by
  cases run with
  | mk trace outcome =>
    cases outcome with
    | error failure => rfl
    | ok result =>
      simp only [andThen]
      cases (next result).outcome <;> simp

instance : LawfulMonad Run :=
  LawfulMonad.mk' Run andThen_done (fun _ _ => rfl) andThen_assoc

end Run

end CommitRules
