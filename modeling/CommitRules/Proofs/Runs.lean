import CommitRules.Check.Run

/-!
# CommitRules.Proofs.Runs

Tests that may fail, and runs for every item of a list.

* `filterM_ok`: choosing by a test that may fail keeps what the answers say.
* `returns_filterM_iff`, `returns_mapM_iff`, `returns_each_iff`: something done for every item of a
  list returns if it does for each of them.
* `except_bind_iff`, `failsBy_bind`: two computations, one after the other, return if both do, and
  fail as the first or the second does.
* `filterM_error`, `mapM_fails`: a failure is that of one item, the first one that fails.
* `each_returns`: when every run returns, the traces follow one another in the order of the items.
* `each_fails`: a failure is that of one item; the items before it have had their full runs, and the
  items behind it have had none.
-/

namespace CommitRules

/-- Reads a result off a computation that has been carried out. -/
theorem ok_of_toOption {ε α : Type} {outcome : Except ε α} {result : α}
    (h : outcome.toOption = some result) : outcome = .ok result := by
  cases outcome with
  | error failure => cases h
  | ok value => cases h; rfl

/-- Whether a computation that may fail returns. -/
def Returns {ε α : Type} (outcome : Except ε α) : Prop := ∃ value, outcome = .ok value

section Returning

variable {α β ε : Type} {failure : ε} {outcome : Except ε α}

theorem returns_ok (value : α) : Returns (.ok value : Except ε α) := ⟨value, rfl⟩

instance : Decidable (Returns outcome) :=
  match outcome with
  | .ok value => isTrue ⟨value, rfl⟩
  | .error _ => isFalse fun ⟨_, h⟩ => nomatch h

theorem not_returns_error : ¬ Returns (.error failure : Except ε α) := fun ⟨_, h⟩ => nomatch h

theorem returns_map_iff {f : α → β} : Returns (outcome.map f) ↔ Returns outcome := by
  cases outcome with
  | error failure => exact iff_of_false not_returns_error not_returns_error
  | ok value => exact iff_of_true (returns_ok _) (returns_ok _)

theorem except_bind_iff {next : α → Except ε β} {result : β} :
    (outcome >>= next) = .ok result ↔ ∃ value, outcome = .ok value ∧ next value = .ok result := by
  constructor
  · intro h
    cases outcome with
    | error failure => cases h
    | ok value => exact ⟨value, rfl, h⟩
  · rintro ⟨value, rfl, h⟩
    exact h

theorem returns_bind_iff {next : α → Except ε β} :
    Returns (outcome >>= next) ↔ ∃ value, outcome = .ok value ∧ Returns (next value) := by
  constructor
  · rintro ⟨result, h⟩
    obtain ⟨value, hvalue, h⟩ := except_bind_iff.1 h
    exact ⟨value, hvalue, result, h⟩
  · rintro ⟨value, hvalue, result, h⟩
    exact ⟨result, except_bind_iff.2 ⟨value, hvalue, h⟩⟩

theorem returns_bind_of_returns {next : α → Except ε β} (h : ∀ value, Returns (next value)) :
    Returns (outcome >>= next) ↔ Returns outcome := by
  rw [returns_bind_iff]
  exact exists_congr fun value => and_iff_left (h value)

theorem returns_mapM_iff {f : α → Except ε β} {items : List α} :
    Returns (items.mapM f) ↔ ∀ item ∈ items, Returns (f item) := by
  induction items with
  | nil => exact iff_of_true (returns_ok _) (List.forall_mem_nil _)
  | cons item items ih =>
    rw [List.mapM_cons, returns_bind_iff, List.forall_mem_cons, ← ih]
    constructor
    · rintro ⟨value, hitem, h⟩
      exact ⟨⟨value, hitem⟩, (returns_bind_of_returns fun _ => returns_ok _).1 h⟩
    · rintro ⟨⟨value, hitem⟩, h⟩
      exact ⟨value, hitem, (returns_bind_of_returns fun _ => returns_ok _).2 h⟩

theorem returns_filterAuxM_iff {test : α → Except ε Bool} {items acc : List α} :
    Returns (items.filterAuxM test acc) ↔ ∀ item ∈ items, Returns (test item) := by
  induction items generalizing acc with
  | nil => exact iff_of_true (returns_ok _) (List.forall_mem_nil _)
  | cons item items ih =>
    rw [List.filterAuxM, returns_bind_iff, List.forall_mem_cons]
    constructor
    · rintro ⟨answer, hitem, h⟩
      exact ⟨⟨answer, hitem⟩, ih.1 h⟩
    · rintro ⟨⟨answer, hitem⟩, h⟩
      exact ⟨answer, hitem, ih.2 h⟩

theorem returns_filterM_iff {test : α → Except ε Bool} {items : List α} :
    Returns (items.filterM test) ↔ ∀ item ∈ items, Returns (test item) :=
  (returns_bind_of_returns fun _ => returns_ok _).trans returns_filterAuxM_iff

theorem bind_error {next : α → Except ε β} (h : (outcome >>= next) = .error failure) :
    outcome = .error failure ∨ ∃ value, outcome = .ok value ∧ next value = .error failure := by
  cases outcome with
  | error other =>
    cases h
    exact .inl rfl
  | ok value => exact .inr ⟨value, rfl, h⟩

/-- Whether a computation fails with a failure of some kind. -/
def FailsBy (kind : ε → Prop) (outcome : Except ε α) : Prop :=
  ∃ failure, outcome = .error failure ∧ kind failure

theorem failsBy_error {kind : ε → Prop} :
    FailsBy kind (.error failure : Except ε α) ↔ kind failure := by
  constructor
  · rintro ⟨_, ⟨⟩, h⟩
    exact h
  · exact fun h => ⟨failure, rfl, h⟩

theorem not_failsBy_ok {kind : ε → Prop} (value : α) : ¬ FailsBy kind (.ok value : Except ε α) :=
  fun ⟨_, h, _⟩ => nomatch h

theorem failsBy_bind {kind : ε → Prop} {next : α → Except ε β} :
    FailsBy kind (outcome >>= next) ↔
      FailsBy kind outcome ∨ ∃ value, outcome = .ok value ∧ FailsBy kind (next value) := by
  cases outcome with
  | error failure =>
    have hnext : ((.error failure : Except ε α) >>= next) = .error failure := rfl
    rw [hnext, failsBy_error, failsBy_error]
    exact (or_iff_left fun ⟨_, hvalue, _⟩ => nomatch hvalue).symm
  | ok value =>
    rw [or_iff_right (not_failsBy_ok value)]
    constructor
    · exact fun h => ⟨value, rfl, h⟩
    · rintro ⟨_, ⟨⟩, h⟩
      exact h

/-- A failure is that of the first item that fails. -/
theorem mapM_fails {f : α → Except ε β} {items : List α} (h : items.mapM f = .error failure) :
    ∃ before item after, items = before ++ item :: after ∧
      (∀ other ∈ before, Returns (f other)) ∧ f item = .error failure := by
  induction items with
  | nil => cases h
  | cons item items ih =>
    rw [List.mapM_cons] at h
    rcases bind_error h with h | ⟨value, hitem, h⟩
    · exact ⟨[], item, items, rfl, List.forall_mem_nil _, h⟩
    rcases bind_error h with h | ⟨values, -, h⟩
    · obtain ⟨before, other, after, rfl, hbefore, h⟩ := ih h
      exact ⟨item :: before, other, after, rfl, List.forall_mem_cons.2 ⟨⟨value, hitem⟩, hbefore⟩, h⟩
    · cases h

theorem mapM_error {f : α → Except ε β} {items : List α} (h : items.mapM f = .error failure) :
    ∃ item ∈ items, f item = .error failure := by
  obtain ⟨before, item, after, rfl, -, h⟩ := mapM_fails h
  exact ⟨item, by simp, h⟩

theorem mapM_cons_ok {f : α → Except ε β} {item : α} {items : List α} {values : List β}
    (h : (item :: items).mapM f = .ok values) :
    ∃ value rest, f item = .ok value ∧ items.mapM f = .ok rest ∧ values = value :: rest := by
  rw [List.mapM_cons] at h
  cases hitem : f item with
  | error other => rw [hitem] at h; cases h
  | ok value =>
    cases hitems : items.mapM f with
    | error other => rw [hitem, hitems] at h; cases h
    | ok rest =>
      rw [hitem, hitems] at h
      cases h
      exact ⟨value, rest, rfl, rfl, rfl⟩

theorem mem_mapM_ok {f : α → Except ε β} {items : List α} {values : List β}
    (h : items.mapM f = .ok values) {value : β} :
    value ∈ values ↔ ∃ item ∈ items, f item = .ok value := by
  induction items generalizing values with
  | nil => cases h; simp
  | cons item items ih =>
    obtain ⟨first, rest, hitem, hitems, rfl⟩ := mapM_cons_ok h
    have hfirst : value = first ↔ f item = .ok value := by rw [hitem, Except.ok.injEq, eq_comm]
    rw [List.mem_cons, ih hitems, hfirst]
    simp only [List.mem_cons, exists_eq_or_imp]

theorem filterAuxM_error {test : α → Except ε Bool} {items acc : List α}
    (h : items.filterAuxM test acc = .error failure) :
    ∃ item ∈ items, test item = .error failure := by
  induction items generalizing acc with
  | nil => cases h
  | cons item items ih =>
    rw [List.filterAuxM] at h
    rcases bind_error h with h | ⟨answer, -, h⟩
    · exact ⟨item, List.mem_cons_self, h⟩
    · obtain ⟨other, hother, h⟩ := ih h
      exact ⟨other, List.mem_cons_of_mem item hother, h⟩

theorem filterM_error {test : α → Except ε Bool} {items : List α}
    (h : items.filterM test = .error failure) : ∃ item ∈ items, test item = .error failure := by
  rw [List.filterM] at h
  rcases bind_error h with h | ⟨kept, -, h⟩
  · exact filterAuxM_error h
  · cases h

theorem filterAuxM_error_congr {test other : α → Except ε Bool}
    (hsame : ∀ item failure, test item = .error failure ↔ other item = .error failure)
    {items acc acc' : List α} :
    items.filterAuxM test acc = .error failure ↔ items.filterAuxM other acc' = .error failure := by
  induction items generalizing acc acc' with
  | nil => exact iff_of_false (fun h => nomatch h) (fun h => nomatch h)
  | cons item items ih =>
    rw [List.filterAuxM, List.filterAuxM]
    cases htest : test item with
    | error failure => rw [(hsame item failure).1 htest]; rfl
    | ok answer =>
      cases hother : other item with
      | error failure => rw [(hsame item failure).2 hother] at htest; cases htest
      | ok answer' => exact ih

/-- Two tests that fail over the same items choose from a list or fail together. -/
theorem filterM_error_congr {test other : α → Except ε Bool}
    (hsame : ∀ item failure, test item = .error failure ↔ other item = .error failure)
    {items : List α} :
    items.filterM test = .error failure ↔ items.filterM other = .error failure := by
  have hmap : ∀ outcome : Except ε (List α), (do return (← outcome).reverse) = .error failure ↔
      outcome = .error failure := by
    intro outcome
    cases outcome with
    | error other => exact Iff.rfl
    | ok kept => exact iff_of_false (fun h => nomatch h) (fun h => nomatch h)
  rw [List.filterM, List.filterM, hmap, hmap]
  exact filterAuxM_error_congr hsame

end Returning

section Choosing

variable {α ε : Type} {test : α → Except ε Bool} {wanted : α → Bool}

theorem filterAuxM_ok {items kept acc : List α}
    (agree : ∀ item ∈ items, ∀ answer, test item = .ok answer → answer = wanted item)
    (h : items.filterAuxM test acc = .ok kept) :
    kept = (items.filter wanted).reverse ++ acc := by
  induction items generalizing acc with
  | nil => cases h; rfl
  | cons item items ih =>
    have hrest : ∀ other ∈ items, ∀ answer, test other = .ok answer → answer = wanted other :=
      fun other hother => agree other (List.mem_cons_of_mem item hother)
    cases ht : test item with
    | error failure => simp [List.filterAuxM, ht, bind, Except.bind] at h
    | ok answer =>
      simp only [List.filterAuxM, ht, bind, Except.bind] at h
      have hitem := agree item List.mem_cons_self answer ht
      rw [ih hrest h, List.filter_cons, hitem]
      cases wanted item <;> simp

theorem filterM_ok {items kept : List α}
    (agree : ∀ item ∈ items, ∀ answer, test item = .ok answer → answer = wanted item)
    (h : items.filterM test = .ok kept) : kept = items.filter wanted := by
  simp only [List.filterM, bind, Except.bind] at h
  split at h
  · cases h
  · rename_i chosen hc
    cases h
    rw [filterAuxM_ok agree hc]
    simp

end Choosing

namespace Run

section Each

variable {α β γ : Type} {run : α → Run β}

theorem bind_of_ok {first : Run α} {next : α → Run γ} {value : α} (h : first.outcome = .ok value) :
    first >>= next = ⟨first.trace ++ (next value).trace, (next value).outcome⟩ := andThen_ok h

theorem bind_of_error {first : Run α} {next : α → Run γ} {failure : Failure}
    (h : first.outcome = .error failure) : first >>= next = ⟨first.trace, .error failure⟩ :=
  andThen_error h

theorem ofExcept_ok_bind (value : α) (next : α → Run γ) :
    (ofExcept (.ok value) >>= next) = next value := by
  rw [bind_of_ok rfl]
  simp [ofExcept]

theorem ofExcept_error_bind (failure : Failure) (next : α → Run γ) :
    (ofExcept (.error failure) >>= next) = ⟨[], .error failure⟩ := bind_of_error rfl

theorem outcome_bind (first : Run α) (next : α → Run γ) :
    (first >>= next).outcome = first.outcome >>= fun value => (next value).outcome := by
  cases h : first.outcome with
  | error failure =>
    rw [bind_of_error h]
    rfl
  | ok value =>
    rw [bind_of_ok h]
    rfl

/-- A run that returns has got through both of its parts. -/
theorem bind_ok {first : Run α} {next : α → Run γ} {result : γ}
    (h : (first >>= next).outcome = .ok result) :
    ∃ value, first.outcome = .ok value ∧ (next value).outcome = .ok result := by
  rw [outcome_bind] at h
  exact except_bind_iff.1 h

theorem outcome_bind_error {first : Run α} {next : α → Run γ} {failure : Failure}
    (h : (first >>= next).outcome = .error failure) :
    first.outcome = .error failure ∨
      ∃ value, first.outcome = .ok value ∧ (next value).outcome = .error failure := by
  rw [outcome_bind] at h
  exact bind_error h

theorem each_cons (item : α) (items : List α) :
    each run (item :: items) = do
      let result ← run item
      let results ← each run items
      return result :: results := rfl

theorem each_ok {items : List α} {results : List β} (h : (each run items).outcome = .ok results) :
    ∀ item ∈ items, ∃ result, (run item).outcome = .ok result := by
  induction items generalizing results with
  | nil => intro item hitem; cases hitem
  | cons first items ih =>
    rw [each_cons] at h
    obtain ⟨result, hfirst, h⟩ := bind_ok h
    obtain ⟨rest, hrest, _⟩ := bind_ok h
    intro item hitem
    rcases List.mem_cons.1 hitem with rfl | hitem
    · exact ⟨result, hfirst⟩
    · exact ih hrest item hitem

theorem returns_each_iff {items : List α} :
    Returns (each run items).outcome ↔ ∀ item ∈ items, Returns (run item).outcome := by
  constructor
  · rintro ⟨results, h⟩
    exact each_ok h
  · intro h
    induction items with
    | nil => exact returns_ok _
    | cons item items ih =>
      obtain ⟨⟨result, hitem⟩, hitems⟩ := List.forall_mem_cons.1 h
      obtain ⟨results, hresults⟩ := ih hitems
      rw [each_cons, bind_of_ok hitem, bind_of_ok hresults]
      exact returns_ok _

theorem each_returns {told : α → List Event} {value : α → β} {items : List α}
    (h : ∀ item ∈ items, run item = ⟨told item, .ok (value item)⟩) :
    each run items = ⟨items.flatMap told, .ok (items.map value)⟩ := by
  induction items with
  | nil => rfl
  | cons item items ih =>
    have hrest := ih fun other hother => h other (List.mem_cons_of_mem item hother)
    rw [each_cons, h item List.mem_cons_self, hrest, bind_of_ok rfl, bind_of_ok rfl]
    simp [pure, done]

theorem each_fails {items : List α} {failure : Failure}
    (h : (each run items).outcome = .error failure) :
    ∃ before item after, items = before ++ item :: after ∧
      (∃ results, (each run before).outcome = .ok results) ∧
      (run item).outcome = .error failure ∧
      (each run items).trace = (each run before).trace ++ (run item).trace := by
  induction items with
  | nil => cases h
  | cons first items ih =>
    rw [each_cons] at h ⊢
    cases hf : (run first).outcome with
    | error other =>
      rw [bind_of_error hf] at h ⊢
      cases h
      exact ⟨[], first, items, rfl, ⟨[], rfl⟩, hf, rfl⟩
    | ok result =>
      rw [bind_of_ok hf] at h ⊢
      cases hr : (each run items).outcome with
      | ok results => rw [bind_of_ok hr] at h; cases h
      | error other =>
        rw [bind_of_error hr] at h ⊢
        cases h
        obtain ⟨before, item, after, hitems, ⟨results, hbefore⟩, hitem, htrace⟩ := ih hr
        refine ⟨first :: before, item, after, by rw [hitems]; rfl, ⟨result :: results, ?_⟩, hitem,
          ?_⟩
        · rw [each_cons, bind_of_ok hf, bind_of_ok hbefore]; rfl
        · rw [each_cons, bind_of_ok hf, bind_of_ok hbefore, htrace]
          simp [pure, done]

end Each

end Run

end CommitRules
