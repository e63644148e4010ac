import CommitRules.Glob.Braces
import Mathlib.Data.List.Basic
import Mathlib.Data.List.TakeDrop
import Mathlib.Data.List.TakeWhile
import Mathlib.Tactic.Choose

/-!
# CommitRules.Proofs.Expansion

Alternatives in braces, multiplied out. A glob is rebuilt and read again from its start whenever the
options of a group are put in its place; `Expands` says what a finite run of this recursion is, and
the laws are proved by induction on such runs.

* `takeOptions_found`: what is read of a group does not depend on what follows it.
* `expands_iff`: every glob has exactly one finite run, whose variants `expand` finds.
* `expand_append`: the variants of a glob that closes its braces are put in front of all variants of
  what follows.
* `expansion_is_product`: the laws together.
-/

namespace CommitRules.Glob

/-! ## Braces -/

/-- How many braces are open behind a text in front of which `depth` are open. A closing brace where
none is open stands for itself. -/
def openAfter : Nat → List Char → Nat
  | depth, [] => depth
  | depth, c :: rest =>
    openAfter (if c = '{' then depth + 1 else if c = '}' then depth - 1 else depth) rest

/-- Whether every opening brace of a glob is closed in it. -/
def Closes (glob : List Char) : Prop := openAfter 0 glob = 0

instance (glob : List Char) : Decidable (Closes glob) := inferInstanceAs (Decidable (_ = _))

/-- Texts in which opening and closing braces belong together. Commas outside of all braces are
allowed or not. -/
inductive Balanced : Bool → List Char → Prop where
  | nil {commas : Bool} : Balanced commas []
  | char {commas : Bool} {c : Char} {rest : List Char} (opening : c ≠ '{') (closing : c ≠ '}')
      (comma : c = ',' → commas = true) (more : Balanced commas rest) : Balanced commas (c :: rest)
  | group {commas : Bool} {inner rest : List Char} (inside : Balanced true inner)
      (more : Balanced commas rest) : Balanced commas ('{' :: inner ++ '}' :: rest)

theorem openAfter_append (depth : Nat) (first second : List Char) :
    openAfter depth (first ++ second) = openAfter (openAfter depth first) second := by
  induction first generalizing depth with
  | nil => rfl
  | cons c first ih => exact ih _

theorem openAfter_of_not_mem {text : List Char} (h : '{' ∉ text) : openAfter 0 text = 0 := by
  induction text with
  | nil => rfl
  | cons c rest ih =>
    have hc : c ≠ '{' := fun hc => h (hc ▸ List.mem_cons_self)
    have hstep : openAfter 0 (c :: rest) = openAfter 0 rest := by
      rw [openAfter, if_neg hc]
      split <;> rfl
    rw [hstep, ih fun hr => h (List.mem_cons_of_mem c hr)]

theorem Closes.append {first second : List Char} (hfirst : Closes first)
    (hsecond : Closes second) : Closes (first ++ second) := by
  rw [Closes, openAfter_append, hfirst]
  exact hsecond

/-! ## Groups -/

section Groups

variable {depth : Nat} {option text after : List Char} {options : List (List Char)}

theorem takeOptions_comma (option rest : List Char) :
    takeOptions 0 option (',' :: rest) =
      (takeOptions 0 [] rest).map fun found => (option.reverse :: found.1, found.2) := by
  rw [takeOptions.eq_def]
  simp only [Char.reduceEq, if_false, decide_true, Bool.and_self, if_true]
  cases takeOptions 0 [] rest <;> rfl

theorem takeOptions_char {c : Char} (hopen : c ≠ '{') (hclose : c ≠ '}')
    (hcomma : c = ',' → depth ≠ 0) (option rest : List Char) :
    takeOptions depth option (c :: rest) = takeOptions depth (c :: option) rest := by
  rw [takeOptions.eq_def]
  dsimp only
  rw [if_neg hopen, if_neg hclose, if_neg]
  simpa using hcomma

/-- What is read of a group are its options, at least one, and its closing brace, whatever
follows. -/
theorem takeOptions_found (h : takeOptions depth option text = some (options, after)) :
    options ≠ [] ∧ ∃ used, text = used ++ after ∧
      option.reverse ++ used = [','].intercalate options ++ ['}'] ∧
      ∀ more, takeOptions depth option (used ++ more) = some (options, more) := by
  fun_induction takeOptions depth option text generalizing options after with
  | case1 | case5 => cases h
  | case2 depth option rest ih =>
    obtain ⟨hne, used, rfl, hused, hmore⟩ := ih h
    exact ⟨hne, '{' :: used, rfl, by simpa using hused, hmore⟩
  | case3 option rest =>
    cases h
    exact ⟨List.cons_ne_nil _ _, ['}'], rfl, by simp, fun more => rfl⟩
  | case4 option rest depth _ ih =>
    obtain ⟨hne, used, rfl, hused, hmore⟩ := ih h
    exact ⟨hne, '}' :: used, rfl, by simpa using hused, hmore⟩
  | case6 depth option c rest hopen hclose hcomma others after hothers ih =>
    cases h
    obtain ⟨rfl, rfl⟩ : c = ',' ∧ depth = 0 := by simpa using hcomma
    obtain ⟨hne, used, rfl, hused, hmore⟩ := ih hothers
    obtain ⟨second, others, rfl⟩ := List.exists_cons_of_ne_nil hne
    refine ⟨List.cons_ne_nil _ _, ',' :: used, rfl, ?_, fun more => ?_⟩
    · rw [List.intercalate_cons_cons, List.append_assoc, List.append_assoc, ← hused]
      rfl
    · rw [List.cons_append, takeOptions_comma, hmore]
      rfl
  | case7 depth option c rest hopen hclose hcomma ih =>
    obtain ⟨hne, used, rfl, hused, hmore⟩ := ih h
    refine ⟨hne, c :: used, rfl, by simpa using hused, fun more => ?_⟩
    rw [List.cons_append, takeOptions_char hopen hclose (by simpa using hcomma), hmore]

/-- A group whose end is not found leaves a brace open. -/
theorem openAfter_of_takeOptions_none (h : takeOptions depth option text = none) :
    openAfter (depth + 1) text ≠ 0 := by
  fun_induction takeOptions depth option text with
  | case1 => exact Nat.succ_ne_zero _
  | case3 | case6 => cases h
  | case2 depth option rest ih => exact ih h
  | case4 option rest depth _ ih => exact ih h
  | case5 depth option c rest hopen hclose hcomma hrest ih =>
    obtain ⟨rfl, rfl⟩ : c = ',' ∧ depth = 0 := by simpa using hcomma
    exact ih hrest
  | case7 depth option c rest hopen hclose hcomma ih =>
    rw [openAfter, if_neg hopen, if_neg hclose]
    exact ih h

/-- The options of a group close their braces, and behind the group none is open any more. -/
theorem openAfter_of_takeOptions (h : takeOptions depth option text = some (options, after))
    (hoption : openAfter 0 option.reverse = depth) :
    (∀ other ∈ options, Closes other) ∧ openAfter (depth + 1) text = openAfter 0 after := by
  fun_induction takeOptions depth option text generalizing options after with
  | case1 | case5 => cases h
  | case2 depth option rest ih =>
    refine ih h ?_
    rw [List.reverse_cons, openAfter_append, hoption]
    rfl
  | case3 option rest =>
    cases h
    exact ⟨fun other hother => by rw [List.mem_singleton.1 hother]; exact hoption, rfl⟩
  | case4 option rest depth _ ih =>
    refine ih h ?_
    rw [List.reverse_cons, openAfter_append, hoption]
    rfl
  | case6 depth option c rest hopen hclose hcomma others after hothers ih =>
    cases h
    obtain ⟨rfl, rfl⟩ : c = ',' ∧ depth = 0 := by simpa using hcomma
    obtain ⟨hcloses, hrest⟩ := ih hothers rfl
    exact ⟨List.forall_mem_cons.2 ⟨hoption, hcloses⟩, hrest⟩
  | case7 depth option c rest hopen hclose hcomma ih =>
    have hstep : ∀ before more, openAfter before (c :: more) = openAfter before more := by
      intro before more
      rw [openAfter, if_neg hopen, if_neg hclose]
    rw [hstep]
    refine ih h ?_
    rw [List.reverse_cons, openAfter_append, hoption, hstep]
    rfl

/-- A balanced text belongs to the current option as it stands. -/
theorem takeOptions_balanced {commas : Bool} {inner : List Char} (h : Balanced commas inner)
    (hdepth : commas = true → depth ≠ 0) (rest : List Char) :
    takeOptions depth option (inner ++ rest) =
      takeOptions depth (inner.reverse ++ option) rest := by
  induction h generalizing depth option rest with
  | nil => rfl
  | char hopen hclose hcomma _ ih =>
    rw [List.cons_append, takeOptions_char hopen hclose fun hc => hdepth (hcomma hc), ih hdepth]
    simp
  | @group _ inner more _ _ ihinner ihmore =>
    have hinner := @ihinner (depth + 1) ('{' :: option) (fun _ => Nat.succ_ne_zero depth)
      ('}' :: more ++ rest)
    calc takeOptions depth option ('{' :: inner ++ '}' :: more ++ rest)
      _ = takeOptions (depth + 1) ('{' :: option) (inner ++ ('}' :: more ++ rest)) := by
        rw [List.cons_append, List.cons_append, List.append_assoc]
        rfl
      _ = takeOptions depth ('}' :: (inner.reverse ++ '{' :: option)) (more ++ rest) := by
        rw [hinner]
        rfl
      _ = takeOptions depth (('{' :: inner ++ '}' :: more).reverse ++ option) rest := by
        rw [ihmore hdepth]
        simp

theorem takeOptions_intercalate (hne : options ≠ [])
    (h : ∀ other ∈ options, Balanced false other) (rest : List Char) :
    takeOptions 0 [] ([','].intercalate options ++ '}' :: rest) = some (options, rest) := by
  induction options with
  | nil => exact (hne rfl).elim
  | cons first others ih =>
    obtain ⟨hfirst, hothers⟩ := List.forall_mem_cons.1 h
    cases others with
    | nil =>
      rw [List.intercalate_singleton, takeOptions_balanced hfirst (fun hc => nomatch hc)]
      simp [takeOptions]
    | cons second others =>
      rw [List.intercalate_cons_cons, List.append_assoc, List.append_assoc,
        takeOptions_balanced hfirst (fun hc => nomatch hc), List.singleton_append,
        takeOptions_comma, ih (List.cons_ne_nil _ _) hothers]
      simp

theorem sublist_intercalate {mark : Char} (h : option ∈ options) :
    option.Sublist ([mark].intercalate options) := by
  induction options with
  | nil => cases h
  | cons first others ih =>
    cases others with
    | nil => simp [List.mem_singleton.1 h]
    | cons second others =>
      rw [List.intercalate_cons_cons]
      rcases List.mem_cons.1 h with rfl | h
      · rw [List.append_assoc]
        exact List.sublist_append_left _ _
      · exact (ih h).trans (List.sublist_append_right _ _)

/-- A glob has fewer opening braces once a group is left behind or replaced by an option. -/
theorem count_lt_of_takeOptions (h : takeOptions 0 [] text = some (options, after))
    (before : List Char) :
    after.count '{' < (before ++ '{' :: text).count '{' ∧
      ∀ option ∈ options,
        (before ++ option ++ after).count '{' < (before ++ '{' :: text).count '{' := by
  obtain ⟨-, used, rfl, hused, -⟩ := takeOptions_found h
  rw [List.reverse_nil, List.nil_append] at hused
  have hle : ∀ option ∈ options, option.count '{' ≤ used.count '{' := by
    intro option hoption
    rw [hused]
    exact ((sublist_intercalate hoption).trans (List.sublist_append_left _ _)).count_le '{'
  simp only [List.count_append, List.count_cons_self]
  refine ⟨by omega, fun option hoption => ?_⟩
  have hoption := hle option hoption
  omega

end Groups

/-! ## Runs -/

/-- The finite runs of the recursion, and the variants they end with. -/
inductive Expands : List Char → List (List Char) → Prop where
  | plain {glob : List Char} (none : '{' ∉ glob) : Expands glob [glob]
  | unclosed {before inner : List Char} (first : '{' ∉ before)
      (unclosed : takeOptions 0 [] inner = none) :
      Expands (before ++ '{' :: inner) [before ++ '{' :: inner]
  | single {before inner option after : List Char} {rests : List (List Char)}
      (first : '{' ∉ before) (closed : takeOptions 0 [] inner = some ([option], after))
      (behind : Expands after rests) :
      Expands (before ++ '{' :: inner)
        (rests.map fun rest => before ++ '{' :: option ++ '}' :: rest)
  | several {before inner after : List Char} {options : List (List Char)}
      {variants : List Char → List (List Char)} (first : '{' ∉ before)
      (closed : takeOptions 0 [] inner = some (options, after)) (more : options.length ≠ 1)
      (each : ∀ option ∈ options, Expands (before ++ option ++ after) (variants option)) :
      Expands (before ++ '{' :: inner) (options.flatMap variants)

section Runs

variable {before inner after : List Char} {options : List (List Char)}

theorem exists_first {glob : List Char} (h : '{' ∈ glob) :
    ∃ before inner, glob = before ++ '{' :: inner ∧ '{' ∉ before := by
  obtain ⟨before, inner, hfirst, hglob⟩ := List.eq_append_cons_of_mem h
  exact ⟨before, inner, hfirst, hglob⟩

/-- By induction on the number of opening braces. -/
theorem exists_expands (glob : List Char) : ∃ variants, Expands glob variants := by
  induction hcount : glob.count '{' using Nat.strongRecOn generalizing glob with
  | ind count ih =>
    by_cases hplain : '{' ∉ glob
    · exact ⟨[glob], .plain hplain⟩
    obtain ⟨before, inner, rfl, hfirst⟩ := exists_first (not_not.1 hplain)
    cases htake : takeOptions 0 [] inner with
    | none => exact ⟨_, .unclosed hfirst htake⟩
    | some found =>
      obtain ⟨options, after⟩ := found
      obtain ⟨hafter, hoptions⟩ := count_lt_of_takeOptions htake before
      rw [hcount] at hafter hoptions
      by_cases hmore : options.length = 1
      · obtain ⟨option, rfl⟩ := List.length_eq_one_iff.1 hmore
        obtain ⟨rests, hrests⟩ := ih _ hafter after rfl
        exact ⟨_, .single hfirst htake hrests⟩
      · have hvariants : ∀ option, ∃ variants, option ∈ options →
            Expands (before ++ option ++ after) variants := by
          intro option
          by_cases hoption : option ∈ options
          · obtain ⟨variants, hvariants⟩ := ih _ (hoptions option hoption) _ rfl
            exact ⟨variants, fun _ => hvariants⟩
          · exact ⟨[], fun h => (hoption h).elim⟩
        choose variants hvariants using hvariants
        exact ⟨_, .several hfirst htake hmore hvariants⟩

theorem ne_brace {text : List Char} (h : '{' ∉ text) : ∀ c ∈ text, (c != '{') = true := by
  intro c hc
  rw [bne_iff_ne]
  rintro rfl
  exact h hc

theorem expandWithin_of_not_mem {glob : List Char} (h : '{' ∉ glob) (rounds : Nat) :
    expandWithin rounds glob = [glob] := by
  cases rounds with
  | zero => rfl
  | succ rounds =>
    rw [expandWithin, List.span_eq_takeWhile_dropWhile, List.dropWhile_eq_nil_iff.2 (ne_brace h)]

theorem expandWithin_succ (h : '{' ∉ before) (rounds : Nat) (inner : List Char) :
    expandWithin (rounds + 1) (before ++ '{' :: inner) =
      match takeOptions 0 [] inner with
      | none => [before ++ '{' :: inner]
      | some ([option], after) =>
        (expandWithin rounds after).map fun rest => before ++ '{' :: option ++ '}' :: rest
      | some (options, after) =>
        options.flatMap fun option => expandWithin rounds (before ++ option ++ after) := by
  have hspan : (before ++ '{' :: inner).span (· != '{') = (before, '{' :: inner) := by
    rw [List.span_eq_takeWhile_dropWhile, List.takeWhile_append_of_pos (ne_brace h),
      List.dropWhile_append_of_pos (ne_brace h)]
    simp
  cases htake : takeOptions 0 [] inner with
  | none => simp only [expandWithin, hspan, htake]
  | some found =>
    obtain ⟨options, after⟩ := found
    rcases options with _ | ⟨option, _ | ⟨second, options⟩⟩ <;>
      simp only [expandWithin, hspan, htake]

theorem expandWithin_several (h : '{' ∉ before)
    (htake : takeOptions 0 [] inner = some (options, after)) (hmore : options.length ≠ 1)
    (rounds : Nat) :
    expandWithin (rounds + 1) (before ++ '{' :: inner) =
      options.flatMap fun option => expandWithin rounds (before ++ option ++ after) := by
  rw [expandWithin_succ h, htake]
  match options, hmore with
  | [], _ => rfl
  | [_], hmore => exact (hmore rfl).elim
  | _ :: _ :: _, _ => rfl

/-- A run ends within as many rounds as there are opening braces. -/
theorem expandWithin_of_expands {glob : List Char} {variants : List (List Char)}
    (h : Expands glob variants) {rounds : Nat} (hrounds : glob.count '{' ≤ rounds) :
    expandWithin rounds glob = variants := by
  induction h generalizing rounds with
  | plain hplain => exact expandWithin_of_not_mem hplain rounds
  | unclosed hfirst htake =>
    cases rounds with
    | zero => rfl
    | succ rounds => rw [expandWithin_succ hfirst, htake]
  | @single before inner option after rests hfirst htake _ ih =>
    obtain ⟨hafter, -⟩ := count_lt_of_takeOptions htake before
    cases rounds with
    | zero => omega
    | succ rounds =>
      rw [expandWithin_succ hfirst, htake]
      exact congrArg _ (ih (by omega))
  | @several before inner after options variants hfirst htake hmore _ ih =>
    obtain ⟨hafter, hoptions⟩ := count_lt_of_takeOptions htake before
    cases rounds with
    | zero => omega
    | succ rounds =>
      rw [expandWithin_several hfirst htake hmore]
      refine List.flatMap_congr fun option hoption => ih option hoption ?_
      have hoption := hoptions option hoption
      omega

theorem expands_iff {glob : List Char} {variants : List (List Char)} :
    Expands glob variants ↔ variants = expand glob := by
  have hends : ∀ {variants}, Expands glob variants → expand glob = variants := fun h =>
    expandWithin_of_expands h (Nat.le_refl _)
  constructor
  · intro h
    exact (hends h).symm
  · rintro rfl
    obtain ⟨variants, h⟩ := exists_expands glob
    rw [hends h]
    exact h

theorem expands_expand (glob : List Char) : Expands glob (expand glob) := expands_iff.2 rfl

end Runs

/-! ## Laws -/

section Laws

variable {before inner option after glob : List Char} {options : List (List Char)}

theorem expand_unclosed (h : '{' ∉ before) (htake : takeOptions 0 [] inner = none) :
    expand (before ++ '{' :: inner) = [before ++ '{' :: inner] :=
  (expands_iff.1 (.unclosed h htake)).symm

theorem expand_single (h : '{' ∉ before)
    (htake : takeOptions 0 [] inner = some ([option], after)) :
    expand (before ++ '{' :: inner) =
      (expand after).map fun rest => before ++ '{' :: option ++ '}' :: rest :=
  (expands_iff.1 (.single h htake (expands_expand after))).symm

theorem expand_several (h : '{' ∉ before)
    (htake : takeOptions 0 [] inner = some (options, after)) (hmore : options.length ≠ 1) :
    expand (before ++ '{' :: inner) =
      options.flatMap fun option => expand (before ++ option ++ after) :=
  (expands_iff.1 (.several h htake hmore fun _ _ => expands_expand _)).symm

/-- A text without opening braces stays in front of every variant. -/
theorem expand_append_left {first : List Char} (h : '{' ∉ first) (glob : List Char) :
    expand (first ++ glob) = (expand glob).map (first ++ ·) := by
  have hrun := expands_expand glob
  generalize expand glob = variants at hrun
  induction hrun with
  | plain hplain =>
    rw [expand_of_not_mem (by simp [h, hplain])]
    rfl
  | @unclosed before inner hfirst htake =>
    rw [← List.append_assoc, expand_unclosed (by simp [h, hfirst]) htake]
    simp
  | @single before inner option after rests hfirst htake hrests _ =>
    rw [← List.append_assoc, expand_single (by simp [h, hfirst]) htake, ← expands_iff.1 hrests,
      List.map_map]
    simp [Function.comp_def]
  | @several before inner after options variants hfirst htake hmore _ ih =>
    rw [← List.append_assoc, expand_several (by simp [h, hfirst]) htake hmore, List.map_flatMap]
    refine List.flatMap_congr fun option hoption => ?_
    rw [← ih option hoption]
    simp

theorem closes_behind (h : Closes (before ++ '{' :: inner)) (hfirst : '{' ∉ before)
    (htake : takeOptions 0 [] inner = some (options, after)) : Closes after := by
  obtain ⟨-, hafter⟩ := openAfter_of_takeOptions htake rfl
  rw [Closes, openAfter_append, openAfter_of_not_mem hfirst] at h
  exact hafter.symm.trans h

/-- The variants of a glob that closes its braces are put in front of all variants of what
follows. -/
theorem expand_append (h : Closes glob) (more : List Char) :
    expand (glob ++ more) =
      (expand glob).flatMap fun first => (expand more).map (first ++ ·) := by
  have hrun := expands_expand glob
  generalize expand glob = variants at hrun
  induction hrun with
  | plain hplain => rw [expand_append_left hplain, List.flatMap_singleton]
  | @unclosed before inner hfirst htake =>
    rw [Closes, openAfter_append, openAfter_of_not_mem hfirst] at h
    exact (openAfter_of_takeOptions_none htake h).elim
  | @single before inner option after rests hfirst htake _ ih =>
    have hafter := closes_behind h hfirst htake
    obtain ⟨-, used, rfl, -, hused⟩ := takeOptions_found htake
    rw [List.append_assoc, List.cons_append, List.append_assoc, expand_single hfirst (hused _),
      ih hafter, List.map_flatMap, List.flatMap_map]
    simp [Function.comp_def]
  | @several before inner after options variants hfirst htake hmore _ ih =>
    have hafter := closes_behind h hfirst htake
    obtain ⟨hoptions, -⟩ := openAfter_of_takeOptions htake rfl
    obtain ⟨-, used, rfl, -, hused⟩ := takeOptions_found htake
    have hbefore : Closes before := openAfter_of_not_mem hfirst
    rw [List.append_assoc, List.cons_append, List.append_assoc,
      expand_several hfirst (hused _) hmore, List.flatMap_assoc]
    refine List.flatMap_congr fun option hoption => ?_
    rw [← ih option hoption ((hbefore.append (hoptions option hoption)).append hafter)]
    simp

theorem expand_group (hmore : 2 ≤ options.length)
    (h : ∀ option ∈ options, Balanced false option) :
    expand ('{' :: [','].intercalate options ++ ['}']) = options.flatMap expand := by
  have hne : options ≠ [] := List.ne_nil_of_length_pos (by omega)
  have hgroup := expand_several List.not_mem_nil (takeOptions_intercalate hne h []) (by omega)
  simpa using hgroup

theorem expand_whole (hglob : Closes glob) (h : Balanced false option) (more : List Char) :
    expand (glob ++ '{' :: option ++ '}' :: more) =
      (expand glob).flatMap fun first =>
        (expand more).map fun rest => first ++ '{' :: option ++ '}' :: rest := by
  have htake := takeOptions_intercalate (List.cons_ne_nil option []) (by simpa using h) more
  rw [List.intercalate_singleton] at htake
  have hgroup := expand_single List.not_mem_nil htake
  rw [List.nil_append] at hgroup
  rw [List.append_assoc, List.cons_append, expand_append hglob, hgroup]
  simp [List.map_map, Function.comp_def]

/-- Every variant stands for itself. -/
theorem expand_variant {variant : List Char} (h : variant ∈ expand glob) :
    expand variant = [variant] := by
  have hrun := expands_expand glob
  generalize expand glob = variants at hrun h
  induction hrun generalizing variant with
  | plain hplain =>
    obtain rfl := List.mem_singleton.1 h
    exact expand_of_not_mem hplain
  | unclosed hfirst htake =>
    obtain rfl := List.mem_singleton.1 h
    exact expand_unclosed hfirst htake
  | @single before inner option after rests hfirst htake _ ih =>
    obtain ⟨rest, hrest, rfl⟩ := List.mem_map.1 h
    obtain ⟨-, used, rfl, hused, hmore⟩ := takeOptions_found htake
    -- the group is read again in the variant, with other text behind it
    have htext : option ++ '}' :: rest = used ++ rest := by
      rw [← List.nil_append used, ← List.reverse_nil, hused, List.intercalate_singleton]
      simp
    rw [List.append_assoc, List.cons_append, htext, expand_single hfirst (hmore rest), ih hrest]
    simp [htext]
  | several hfirst htake hmore _ ih =>
    obtain ⟨option, hoption, hvariant⟩ := List.mem_flatMap.1 h
    exact ih option hoption hvariant

end Laws

/-- Alternatives are multiplied out in order. Every glob has exactly one finite run, and its variants
are those `expand` finds. A glob without opening braces is its only variant. The variants of a glob
that closes its braces, with any text behind it, are its own, one after the other, each with every
variant of that text. The variants of a group of balanced options are those of the options, one after
the other; a balanced group without commas of its own stays as it is in every variant. And every
variant stands for itself alone. -/
theorem expansion_is_product :
    (∀ glob variants, Expands glob variants ↔ variants = expand glob) ∧
    (∀ glob, '{' ∉ glob → expand glob = [glob]) ∧
    (∀ glob more, Closes glob → expand (glob ++ more) =
      (expand glob).flatMap fun first => (expand more).map (first ++ ·)) ∧
    (∀ options, 2 ≤ options.length → (∀ option ∈ options, Balanced false option) →
      expand ('{' :: [','].intercalate options ++ ['}']) = options.flatMap expand) ∧
    (∀ glob option more, Closes glob → Balanced false option →
      expand (glob ++ '{' :: option ++ '}' :: more) =
        (expand glob).flatMap fun first =>
          (expand more).map fun rest => first ++ '{' :: option ++ '}' :: rest) ∧
    (∀ glob, ∀ variant ∈ expand glob, expand variant = [variant]) := by
  refine ⟨fun _ _ => expands_iff, fun _ => expand_of_not_mem, fun _ more h => expand_append h more,
    fun _ => expand_group, fun _ _ more hglob h => expand_whole hglob h more,
    fun _ _ => expand_variant⟩

/-- A group with an empty option inside another one. Behind it a brace is closed that was never
opened, and one is opened that is never closed. -/
theorem expansion_is_product_nested :
    Closes ['{', 'a', ',', '{', 'b', ',', '}', '}'] ∧
    expand (['{', 'a', ',', '{', 'b', ',', '}', '}'] ++ ['}', '{', 'x']) =
      [['a', '}', '{', 'x'], ['b', '}', '{', 'x'], ['}', '{', 'x']] := by
  have hcloses : Closes ['{', 'a', ',', '{', 'b', ',', '}', '}'] := by decide
  have hglob : expand ['{', 'a', ',', '{', 'b', ',', '}', '}'] = [['a'], ['b'], []] := by decide
  have hmore : expand ['}', '{', 'x'] = [['}', '{', 'x']] := by decide
  refine ⟨hcloses, ?_⟩
  rw [expansion_is_product.2.2.1 _ _ hcloses, hglob, hmore]
  rfl

end CommitRules.Glob
