import CommitRules.Command.Execute
import CommitRules.Proofs.Git
import CommitRules.Proofs.Told

/-!
# CommitRules.Proofs.Questions

What a run asks git, and when the asking ends.

* `Asks`: a run asks the questions of a plan in order, all of them if it returns, and none behind
  one that fails.
* `Asks.bind`: one run behind another one asks the questions of both plans.
* `asks_checkRun`: the plan of a check is to ask for the root, for the names, for the root again if
  there are names, and for the change.
-/

namespace CommitRules

open CommitRules.Files
open CommitRules.Text

/-- What git is asked by an event. -/
def Event.question? : Event → Option (List String)
  | .asked arguments => some arguments
  | _ => none

/-- What git is asked, in order. -/
def questionsIn (trace : List Event) : List (List String) := trace.filterMap Event.question?

theorem questionsIn_append (first second : List Event) :
    questionsIn (first ++ second) = questionsIn first ++ questionsIn second :=
  List.filterMap_append

/-- Applying rules asks git nothing. -/
theorem questionsIn_applyRules {place : Place} {diff : List Char} {files : List String}
    {rules : List Rule} : questionsIn (applyRules place diff files rules).trace = [] := by
  rw [questionsIn, List.filterMap_eq_nil_iff]
  intro event hevent
  have htold := applyRules_isTold hevent
  cases event with
  | asked | loaded => cases htold
  | matched | violation | processed => rfl

namespace Git

def rootQuestion : List String := ["rev-parse", "--show-toplevel"]

def namesQuestion (commit : String) : List String :=
  ["diff-tree", "-z", "--no-commit-id", "--name-only", "-r", commit]

def changeQuestion (commit : String) : List String := ["show", "--no-color", "--format=", commit]

/-- What git says to a question, if there is git. -/
def said? (tool : Tool) (question : List String) : Option (Except Failure String) :=
  tool.map fun answer => replyText question (answer question)

/-- Whether git has names for a commit. -/
def lists (tool : Tool) (commit : String) : Bool :=
  match said? tool (namesQuestion commit) with
  | some (.ok output) => !(namesOf output).isEmpty
  | _ => false

/-- What a check asks git, if all goes well. -/
def questions (tool : Tool) (commit : String) : List (List String) :=
  [rootQuestion, namesQuestion commit] ++ (if lists tool commit then [rootQuestion] else []) ++
    [changeQuestion commit]

/-! ## Plans -/

/-- A run asks the questions of a plan: in order, all of them if it returns, and none behind one
that fails. -/
structure Asks {α : Type} (tool : Tool) (run : Run α) (plan : List (List String)) : Prop where
  inOrder : questionsIn run.trace <+: plan
  whole : Returns run.outcome → questionsIn run.trace = plan
  stops : ∀ earlier question later failure,
    questionsIn run.trace = earlier ++ question :: later →
      said? tool question = some (.error failure) → later = [] ∧ run.outcome = .error failure

section Plans

variable {α β : Type} {tool : Tool} {run : Run α} {plan : List (List String)}

theorem asks_nothing (h : questionsIn run.trace = []) (hplan : Returns run.outcome → plan = []) :
    Asks tool run plan where
  inOrder := by
    rw [h]
    exact List.nil_prefix
  whole hreturns := by rw [h, hplan hreturns]
  stops earlier _ _ _ hasked _ := by
    rw [h] at hasked
    exact absurd hasked.symm (List.append_ne_nil_of_right_ne_nil earlier (List.cons_ne_nil _ _))

theorem asks_quiet (h : questionsIn run.trace = []) : Asks tool run [] :=
  asks_nothing h fun _ => rfl

theorem asks_error (failure : Failure) (plan : List (List String)) :
    Asks tool (.ofExcept (.error failure) : Run α) plan :=
  asks_nothing rfl fun h => (not_returns_error h).elim

theorem Asks.bind {next : α → Run β} {rest : List (List String)} (hrun : Asks tool run plan)
    (hnext : ∀ value, run.outcome = .ok value → Asks tool (next value) rest) :
    Asks tool (run >>= next) (plan ++ rest) := by
  cases hr : run.outcome with
  | error failure =>
    rw [Run.bind_of_error hr]
    refine ⟨hrun.inOrder.trans (List.prefix_append plan rest), fun h => (not_returns_error h).elim,
      ?_⟩
    intro earlier question later other hasked hsaid
    obtain ⟨hlast, hfailed⟩ := hrun.stops earlier question later other hasked hsaid
    cases hr.symm.trans hfailed
    exact ⟨hlast, rfl⟩
  | ok value =>
    obtain ⟨inOrder, whole, stops⟩ := hnext value hr
    have hplan : questionsIn run.trace = plan := hrun.whole ⟨value, hr⟩
    rw [Run.bind_of_ok hr]
    refine ⟨?_, ?_, ?_⟩
    · rw [questionsIn_append, hplan]
      exact (List.prefix_append_right_inj plan).2 inOrder
    · intro h
      rw [questionsIn_append, hplan, whole h]
    · intro earlier question later failure hasked hsaid
      rw [questionsIn_append] at hasked
      rcases List.append_eq_append_iff.1 hasked with
        ⟨middle, -, hsecond⟩ | ⟨middle, hfirst, hsecond⟩
      · exact stops middle question later failure hsecond hsaid
      cases middle with
      | nil => exact stops [] question later failure hsecond.symm hsaid
      | cons other middle =>
        -- a question of the first run has not failed, because that run has returned
        cases hsecond
        have hfailed := (hrun.stops earlier question middle failure hfirst hsaid).2
        rw [hr] at hfailed
        cases hfailed

theorem Asks.bind_quiet {next : α → Run β} (hrun : Asks tool run plan)
    (hnext : ∀ value, questionsIn (next value).trace = []) : Asks tool (run >>= next) plan := by
  have h := hrun.bind fun value _ => asks_quiet (hnext value)
  rwa [List.append_nil] at h

end Plans

/-! ## Calls -/

section Calls

variable {tool : Tool} {tree : Tree} {repo : Path} {commit : String}

theorem call_cases (tool : Tool) (tree : Tree) (repo : Path) (arguments : List String) :
    (∃ failure, call tool tree repo arguments = .ofExcept (.error failure)) ∨
    ∃ answer, tool = some answer ∧ call tool tree repo arguments =
      ⟨[.asked arguments], replyText arguments (answer arguments)⟩ := by
  unfold call
  split
  · exact .inl ⟨_, rfl⟩
  · split
    · exact .inl ⟨_, rfl⟩
    · exact .inl ⟨_, rfl⟩
    · exact .inr ⟨_, rfl, rfl⟩

theorem asks_call (arguments : List String) :
    Asks tool (call tool tree repo arguments) [arguments] := by
  rcases call_cases tool tree repo arguments with ⟨failure, h⟩ | ⟨answer, rfl, h⟩
  · rw [h]
    exact asks_error failure _
  · rw [h]
    refine ⟨List.prefix_refl _, fun _ => rfl, ?_⟩
    intro earlier question later failure hasked hsaid
    have hone : [arguments] = earlier ++ question :: later := hasked
    rcases List.singleton_eq_append_iff.1 hone with ⟨rfl, h⟩ | ⟨-, h⟩
    · cases h
      exact ⟨rfl, Option.some.inj hsaid⟩
    · cases h

theorem said_of_call {arguments : List String} {output : String}
    (h : (call tool tree repo arguments).outcome = .ok output) :
    said? tool arguments = some (.ok output) := by
  rcases call_cases tool tree repo arguments with ⟨failure, hcall⟩ | ⟨answer, rfl, hcall⟩
  · rw [hcall] at h
    cases h
  · rw [hcall] at h
    exact congrArg some h

theorem asks_root : Asks tool (root tool tree repo) [rootQuestion] := by
  refine (asks_call rootQuestion).bind_quiet fun output => ?_
  dsimp only
  split <;> rfl

theorem asks_files :
    Asks tool (files tool tree repo commit)
      (namesQuestion commit :: if lists tool commit then [rootQuestion] else []) := by
  refine (asks_call (namesQuestion commit)).bind fun output houtput => ?_
  have hlists : lists tool commit = !(namesOf output).isEmpty := by
    rw [lists, said_of_call houtput]
  rw [hlists]
  cases namesOf output with
  | nil => exact asks_quiet rfl
  | cons name names => exact asks_root.bind_quiet fun found => rfl

theorem asks_check (place : Place) (rules : List Rule) (listed : List String) :
    Asks tool (Session.start.check (change tool tree repo) commit place rules listed)
      [changeQuestion commit] := by
  have hget : Asks tool (Session.start.cache.get (change tool tree repo) commit)
      [changeQuestion commit] := (asks_call _).bind_quiet fun text => rfl
  exact hget.bind_quiet fun diff => questionsIn_applyRules

end Calls

end Git

/-- A check asks git for the root, for the names, for the root again if there are names, and for the
change, up to a question that fails. -/
theorem Command.asks_checkRun (world : Command.World) (repo : Path) (commit : String)
    (config : Config) :
    Git.Asks world.git (Command.checkRun world repo commit config)
      (Git.questions world.git commit) := by
  refine Git.asks_root.bind fun root _ => Git.asks_files.bind fun listed _ => ?_
  exact (Git.asks_check ⟨world.tree, some root⟩ config.rules listed).bind_quiet fun _ => rfl

end CommitRules
