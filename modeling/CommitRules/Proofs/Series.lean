import CommitRules.Proofs.Told
import Mathlib.Data.List.Induction

/-!
# CommitRules.Proofs.Series

Checks one after the other, which share the change and a ledger. Between two of them the files, the
rules and the names of the files of the change may be any others, and the fetch may answer
differently whenever it is called.

The invariant is `Stage`: either every check so far has called the fetch and got a failure, or some
call has got a text, and that text is kept and the fetch has not been called since.

* `stage_after`: the invariant holds after every series.
* `check_after_series`: what the next check does after any series.
-/

namespace CommitRules

open CommitRules.Files

/-- A check of a series: where the rules are applied, the rules, and the files of the change. -/
structure Round where
  place : Place
  rules : List Rule
  files : List String

/-- A fetch whose calls leave a note. -/
def notedFetch (answer : Except Failure String) (commit : String) : Run String :=
  ⟨[.asked [commit]], answer⟩

def Event.isAsked : Event → Bool
  | .asked _ => true
  | _ => false

/-- How many calls have left their notes in a trace. -/
def timesAsked (trace : List Event) : Nat := trace.countP Event.isAsked

/-- Where a series has got to: what outlives a check, and how often the fetch has been called. -/
structure Series where
  session : Session
  asked : Nat

namespace Series

variable (answers : Nat → Except Failure String) (commit : String)

def start : Series := ⟨.start, 0⟩

/-- A check; call number `n` of the fetch, counted from zero over the whole series, is answered by
`answers n`. -/
def check (series : Series) (round : Round) : Run (List RuleResult) :=
  series.session.check (notedFetch (answers series.asked)) commit round.place round.rules
    round.files

/-- The series with one more check. -/
def next (series : Series) (round : Round) : Series :=
  ⟨series.session.afterCheck (notedFetch (answers series.asked)) commit round.place round.rules
      round.files,
    series.asked + timesAsked (series.check answers commit round).trace⟩

/-- A series of checks. -/
def after (rounds : List Round) : Series := rounds.foldl (next answers commit) start

/-- A check on its own, for which the change is a given text. -/
def alone (text : String) (round : Round) : Run (List RuleResult) :=
  Session.start.check (notedFetch (.ok text)) commit round.place round.rules round.files

/-- What holds of a series after a number of checks. -/
inductive Stage (rounds : Nat) (series : Series) : Prop where
  | waiting
      (failed : ∀ i < rounds, ∃ failure, answers i = .error failure)
      (empty : series.session.cache.text = none)
      (asked : series.asked = rounds)
  | settled (first : Nat) (text : String)
      (found : answers first = .ok text)
      (failed : ∀ i < first, ∃ failure, answers i = .error failure)
      (before : first < rounds)
      (kept : series.session.cache.text = some text)
      (asked : series.asked = first + 1)

end Series

/-! ## What a check does at each stage -/

theorem timesAsked_applyRules (place : Place) (diff : List Char) (files : List String)
    (rules : List Rule) : timesAsked (applyRules place diff files rules).trace = 0 := by
  refine List.countP_eq_zero.2 fun event h hasked => ?_
  have htold := applyRules_isTold h
  cases event <;> simp [Event.isTold, Event.isAsked] at htold hasked

namespace Session

variable {session : Session} {answer : Except Failure String} {commit text : String}
  {failure : Failure} (round : Round)

theorem check_kept (h : session.cache.text = some text) (fetch : String → Run String) :
    session.check fetch commit round.place round.rules round.files =
      applyRules round.place text.toList round.files round.rules := by
  have hget : session.cache.get fetch commit = .done text := by simp [DiffCache.get, h]
  rw [check_of_fetched (by rw [hget]; rfl), hget]
  simp [Run.done]

theorem check_failed (h : session.cache.text = none) :
    session.check (notedFetch (.error failure)) commit round.place round.rules round.files =
      ⟨[.asked [commit]], .error failure⟩ := by
  have hget : session.cache.get (notedFetch (.error failure)) commit =
      ⟨[.asked [commit]], .error failure⟩ := by
    simp only [DiffCache.get, h]; rfl
  rw [check_of_unfetched (by rw [hget]), hget]

theorem check_fetched (h : session.cache.text = none) :
    session.check (notedFetch (.ok text)) commit round.place round.rules round.files =
      ⟨.asked [commit] :: .loaded commit text.length ::
          (applyRules round.place text.toList round.files round.rules).trace,
        (applyRules round.place text.toList round.files round.rules).outcome⟩ := by
  have hget : session.cache.get (notedFetch (.ok text)) commit =
      ⟨[.asked [commit], .loaded commit text.length], .ok text⟩ := by
    simp only [DiffCache.get, h]; rfl
  rw [check_of_fetched (by rw [hget]), hget]
  rfl

end Session

namespace Series

variable (answers : Nat → Except Failure String) (commit : String) {series : Series}
  {rounds : Nat} (round : Round)

theorem check_waiting {failure : Failure} (h : series.session.cache.text = none)
    (ha : answers series.asked = .error failure) :
    series.check answers commit round = ⟨[.asked [commit]], .error failure⟩ := by
  rw [check, ha]
  exact Session.check_failed round h

theorem check_first {text : String} (h : series.session.cache.text = none)
    (ha : answers series.asked = .ok text) :
    series.check answers commit round = alone commit text round := by
  rw [check, ha, alone, Session.check_fetched round h, Session.check_fetched round rfl]

theorem check_settled {text : String} (h : series.session.cache.text = some text) :
    series.check answers commit round =
      applyRules round.place text.toList round.files round.rules :=
  Session.check_kept round h _

theorem alone_outcome (text : String) :
    (alone commit text round).outcome =
      (applyRules round.place text.toList round.files round.rules).outcome := by
  rw [alone, Session.check_fetched round rfl]

theorem told_alone (text : String) :
    toldIn (alone commit text round).trace =
      toldIn (applyRules round.place text.toList round.files round.rules).trace := by
  rw [alone, Session.check_fetched round rfl]
  rfl

theorem timesAsked_alone (text : String) : timesAsked (alone commit text round).trace = 1 := by
  have hnone := timesAsked_applyRules round.place text.toList round.files round.rules
  unfold timesAsked at hnone
  rw [alone, Session.check_fetched round rfl, timesAsked, List.countP_cons, List.countP_cons, hnone]
  rfl

/-! ## The invariant -/

theorem stage_start : Stage answers 0 start :=
  .waiting (fun _ h => absurd h (Nat.not_lt_zero _)) rfl rfl

theorem stage_next (h : Stage answers rounds series) :
    Stage answers (rounds + 1) (series.next answers commit round) := by
  cases h with
  | waiting failed empty asked =>
    -- all calls so far have failed, so this is call number `rounds`
    cases ha : answers rounds with
    | error failure =>
      have hcheck := check_waiting answers commit round empty (asked.symm ▸ ha)
      refine .waiting ?_ ?_ ?_
      · intro i hi
        rcases Nat.lt_succ_iff_lt_or_eq.1 hi with hi | rfl
        · exact failed i hi
        · exact ⟨failure, ha⟩
      · simp [next, Session.afterCheck, DiffCache.after, DiffCache.get, empty, asked, ha,
          notedFetch, bind, Run.andThen]
      · rw [next, hcheck, asked]; rfl
    | ok text =>
      have hcheck := check_first answers commit round empty (asked.symm ▸ ha)
      refine .settled rounds text ha failed (Nat.lt_succ_self rounds) ?_ ?_
      · simp [next, Session.afterCheck, DiffCache.after, DiffCache.get, empty, asked, ha,
          notedFetch, bind, Run.andThen, Run.note, pure, Run.done]
      · rw [next, hcheck, timesAsked_alone, asked]
  | settled first text found failed before kept asked =>
    have hcheck := check_settled answers commit round kept
    refine .settled first text found failed (Nat.lt_succ_of_lt before) ?_ ?_
    · simp [next, Session.afterCheck, DiffCache.after, DiffCache.get, kept, Run.done]
    · rw [next, hcheck, timesAsked_applyRules, asked]

theorem after_snoc (earlier : List Round) :
    after answers commit (earlier ++ [round]) =
      (after answers commit earlier).next answers commit round := by
  rw [after, List.foldl_append]
  rfl

theorem stage_after (earlier : List Round) :
    Stage answers earlier.length (after answers commit earlier) := by
  induction earlier using List.reverseRecOn with
  | nil => exact stage_start answers
  | append_singleton earlier round ih =>
    rw [after_snoc, List.length_append]
    exact stage_next answers commit round ih

/-! ## The next check -/

variable {answers}

theorem first_unique {first other : Nat} {text text' : String} (found : answers first = .ok text)
    (failed : ∀ i < first, ∃ failure, answers i = .error failure)
    (found' : answers other = .ok text')
    (failed' : ∀ i < other, ∃ failure, answers i = .error failure) : first = other := by
  by_contra hne
  rcases Nat.lt_or_gt_of_ne hne with hlt | hlt
  · obtain ⟨failure, hf⟩ := failed' first hlt
    rw [found] at hf
    cases hf
  · obtain ⟨failure, hf⟩ := failed other hlt
    rw [found'] at hf
    cases hf

/-- While the fetch has failed whenever it was called, a check calls it once more. -/
theorem check_after_failures {failure : Failure} (earlier : List Round)
    (failed : ∀ i < earlier.length, ∃ failure, answers i = .error failure)
    (h : answers earlier.length = .error failure) :
    (after answers commit earlier).check answers commit round =
      ⟨[.asked [commit]], .error failure⟩ := by
  cases stage_after answers commit earlier with
  | waiting _ empty asked => exact check_waiting answers commit round empty (asked.symm ▸ h)
  | settled first text found _ before _ _ =>
    obtain ⟨other, ho⟩ := failed first before
    rw [found] at ho
    cases ho

/-- From the first call on that has got a text, a check does what it does on its own for this text;
but only the first one calls the fetch. -/
theorem check_after_first {first : Nat} {text : String} (earlier : List Round)
    (found : answers first = .ok text)
    (failed : ∀ i < first, ∃ failure, answers i = .error failure)
    (h : first ≤ earlier.length) :
    ((after answers commit earlier).check answers commit round).outcome =
        (alone commit text round).outcome ∧
      toldIn ((after answers commit earlier).check answers commit round).trace =
        toldIn (alone commit text round).trace ∧
      timesAsked ((after answers commit earlier).check answers commit round).trace =
        if first = earlier.length then 1 else 0 := by
  cases stage_after answers commit earlier with
  | waiting failed' empty asked =>
    have hfirst : first = earlier.length := by
      refine Nat.le_antisymm h (Nat.le_of_not_lt fun hlt => ?_)
      obtain ⟨failure, hf⟩ := failed' first hlt
      rw [found] at hf
      cases hf
    subst hfirst
    rw [check_first answers commit round empty (asked.symm ▸ found), if_pos rfl]
    exact ⟨rfl, rfl, timesAsked_alone commit round text⟩
  | settled first' text' found' failed' before kept _ =>
    obtain rfl := first_unique found failed found' failed'
    rw [found] at found'
    cases found'
    rw [check_settled answers commit round kept, alone_outcome, told_alone,
      if_neg (Nat.ne_of_lt before)]
    exact ⟨rfl, rfl, timesAsked_applyRules ..⟩

theorem text_of_ok {results : List RuleResult} (earlier : List Round)
    (h : ((after answers commit earlier).check answers commit round).outcome = .ok results) :
    ∃ first text, first ≤ earlier.length ∧ answers first = .ok text ∧
      ∀ i < first, ∃ failure, answers i = .error failure := by
  cases stage_after answers commit earlier with
  | settled first text found failed before _ _ =>
    exact ⟨first, text, Nat.le_of_lt before, found, failed⟩
  | waiting failed empty asked =>
    cases ha : answers earlier.length with
    | ok text => exact ⟨earlier.length, text, Nat.le_refl _, ha, failed⟩
    | error failure =>
      rw [check_waiting answers commit round empty (asked.symm ▸ ha)] at h
      cases h

/-! ## The ledger -/

variable (answers)

theorem ledger_next (series : Series) :
    (series.next answers commit round).session.ledger =
      series.session.ledger.noteAll (toldIn (series.check answers commit round).trace) :=
  (Ledger.noteAll_toldIn _ _).symm

theorem ledger_mono (series : Series) (rounds : List Round) :
    series.session.ledger.rules ⊆
        (rounds.foldl (next answers commit) series).session.ledger.rules ∧
      series.session.ledger.matched ⊆
        (rounds.foldl (next answers commit) series).session.ledger.matched := by
  induction rounds generalizing series with
  | nil => exact ⟨List.Subset.refl _, List.Subset.refl _⟩
  | cons round rounds ih =>
    obtain ⟨hrules, hmatched⟩ := ih (series.next answers commit round)
    have hnext := Ledger.noteAll_mono series.session.ledger
      (toldIn (series.check answers commit round).trace)
    rw [← ledger_next] at hnext
    exact ⟨List.Subset.trans hnext.1 hrules, List.Subset.trans hnext.2 hmatched⟩

/-- What a check has told stands in the ledger from then on. -/
theorem told_subset (earlier between : List Round) :
    (toldIn ((after answers commit earlier).check answers commit round).trace).filterMap
        Event.label? ⊆ (after answers commit (earlier ++ round :: between)).session.ledger.rules ∧
      (toldIn ((after answers commit earlier).check answers commit round).trace).filterMap
        Event.matched? ⊆
        (after answers commit (earlier ++ round :: between)).session.ledger.matched := by
  have hmono := ledger_mono answers commit
    ((after answers commit earlier).next answers commit round) between
  rw [← after_snoc, after, ← List.foldl_append, List.append_assoc, ← after, after_snoc, ledger_next,
    Ledger.noteAll_eq] at hmono
  exact ⟨fun _ h => hmono.1 (mem_addAll.2 (.inr h)), fun _ h => hmono.2 (mem_addAll.2 (.inr h))⟩

/-- What the next check of a series does. While the fetch has failed whenever it was called, the
check calls it once, ends in the failure it gets and tells nothing. From the first call on that has
got a text, the fetch is not called again, and the check has the outcome of one on its own for which
the change is that text, and tells the same. A check that has returned returns the same when it
comes again, whatever comes between, and adds nothing to the ledger but its violations once more. -/
theorem check_after_series (earlier : List Round) :
    ((∀ i ≤ earlier.length, ∃ failure, answers i = .error failure) →
      ∃ failure, answers earlier.length = .error failure ∧
        (after answers commit earlier).check answers commit round =
          ⟨[.asked [commit]], .error failure⟩) ∧
    (∀ first text, first ≤ earlier.length → answers first = .ok text →
      (∀ i < first, ∃ failure, answers i = .error failure) →
      ((after answers commit earlier).check answers commit round).outcome =
          (alone commit text round).outcome ∧
        toldIn ((after answers commit earlier).check answers commit round).trace =
          toldIn (alone commit text round).trace ∧
        timesAsked ((after answers commit earlier).check answers commit round).trace =
          if first = earlier.length then 1 else 0) ∧
    (∀ results between,
      ((after answers commit earlier).check answers commit round).outcome = .ok results →
      ((after answers commit (earlier ++ round :: between)).check answers commit round).outcome =
          .ok results ∧
        ∃ violations,
          (after answers commit (earlier ++ [round])).session.ledger.violations =
            (after answers commit earlier).session.ledger.violations ++ violations ∧
          (after answers commit (earlier ++ round :: between ++ [round])).session.ledger =
            { (after answers commit (earlier ++ round :: between)).session.ledger with
              violations :=
                (after answers commit (earlier ++ round :: between)).session.ledger.violations ++
                  violations }) := by
  refine ⟨fun failed => ?_, fun first text h found failed =>
    check_after_first commit round earlier found failed h, fun results between h => ?_⟩
  · obtain ⟨failure, hf⟩ := failed earlier.length (Nat.le_refl _)
    exact ⟨failure, hf, check_after_failures commit round earlier
      (fun i hi => failed i (Nat.le_of_lt hi)) hf⟩
  · obtain ⟨first, text, hle, found, failed⟩ := text_of_ok commit round earlier h
    have hle' : first ≤ (earlier ++ round :: between).length := by
      rw [List.length_append]; omega
    obtain ⟨houtcome, htold, _⟩ := check_after_first commit round earlier found failed hle
    obtain ⟨houtcome', htold', _⟩ := check_after_first commit round _ found failed hle'
    -- the labels and the files that the check tells again are in the ledger since its first time
    obtain ⟨hrules, hmatched⟩ := told_subset answers commit round earlier between
    refine ⟨by rw [houtcome', ← houtcome, h],
      (toldIn ((after answers commit earlier).check answers commit round).trace).filterMap
        Event.violation?, ?_, ?_⟩
    · rw [after_snoc, ledger_next, Ledger.noteAll_eq]
    · rw [after_snoc, ledger_next, htold', ← htold, Ledger.noteAll_eq, addAll_of_subset hrules,
        addAll_of_subset hmatched]

end Series

end CommitRules
