import CommitRules.Proofs.Expansion
import Mathlib.Data.List.Infix

/-!
# CommitRules.Proofs.BraceGroups

The groups of alternatives that are left when a glob has been expanded. The reader goes from one
opening brace to the next. It ends at a brace that is never closed, and it passes over all that a
pair of braces without a comma of its own encloses, so the groups there are never seen.

* `takeOptions_iff`: the texts that are read as the options of a group.
* `braceBefore_balanced`, `braceBefore_pair`: where the opening braces of a text can stand.
* `hasGroup_expand_iff`: the globs with a variant in which a group is left.
* `expansion_complete_iff`: the globs that are expanded completely, and what is left of the others.
-/

namespace CommitRules.Glob

variable {text first second after : List Char} {options : List (List Char)}

/-! ## Options -/

theorem Balanced.weaken {commas : Bool} (h : Balanced commas text) : Balanced true text := by
  induction h with
  | nil => exact .nil
  | char opening closing _ _ ih => exact .char opening closing (fun _ => rfl) ih
  | group inside _ _ ih => exact .group inside ih

theorem Balanced.append {commas : Bool} (hfirst : Balanced commas first)
    (hsecond : Balanced commas second) : Balanced commas (first ++ second) := by
  induction hfirst with
  | nil => exact hsecond
  | char opening closing comma _ ih => exact .char opening closing comma (ih hsecond)
  | @group _ inner more inside _ _ ih =>
    rw [List.append_assoc]
    exact .group inside (ih hsecond)

theorem Balanced.comma (hfirst : Balanced true first) (hsecond : Balanced true second) :
    Balanced true (first ++ ',' :: second) :=
  hfirst.append (.char (by decide) (by decide) (fun _ => rfl) hsecond)

theorem balanced_intercalate (h : ∀ option ∈ options, Balanced false option) :
    Balanced true ([','].intercalate options) := by
  induction options with
  | nil => exact .nil
  | cons option others ih =>
    obtain ⟨hoption, hothers⟩ := List.forall_mem_cons.1 h
    cases others with
    | nil => simpa using hoption.weaken
    | cons other others =>
      rw [List.intercalate_cons_cons, List.append_assoc]
      exact hoption.weaken.comma (ih hothers)

theorem intercalate_append {first second : List (List Char)} (hfirst : first ≠ [])
    (hsecond : second ≠ []) :
    [','].intercalate (first ++ second) =
      [','].intercalate first ++ ',' :: [','].intercalate second := by
  induction first with
  | nil => exact (hfirst rfl).elim
  | cons option others ih =>
    cases others with
    | nil => simp [List.intercalate_cons_of_ne_nil hsecond]
    | cons other others =>
      have hmore := ih (List.cons_ne_nil _ _)
      rw [List.cons_append] at hmore
      rw [List.cons_append, List.cons_append, List.intercalate_cons_cons, hmore,
        List.intercalate_cons_cons]
      simp

/-- A balanced text falls into options at its own commas. -/
theorem exists_options (h : Balanced true text) :
    ∃ options, options ≠ [] ∧ (∀ option ∈ options, Balanced false option) ∧
      text = [','].intercalate options := by
  generalize hcommas : true = commas at h
  induction h with
  | nil => exact ⟨[[]], List.cons_ne_nil _ _, by simpa using Balanced.nil, rfl⟩
  | @char commas c rest opening closing _ _ ih =>
    obtain ⟨options, hne, hoptions, rfl⟩ := ih hcommas
    by_cases hc : c = ','
    · subst hc
      refine ⟨[] :: options, List.cons_ne_nil _ _, ?_, ?_⟩
      · exact List.forall_mem_cons.2 ⟨.nil, hoptions⟩
      · rw [List.intercalate_cons_of_ne_nil hne]
        rfl
    · obtain ⟨option, others, rfl⟩ := List.exists_cons_of_ne_nil hne
      obtain ⟨hoption, hothers⟩ := List.forall_mem_cons.1 hoptions
      refine ⟨(c :: option) :: others, List.cons_ne_nil _ _, ?_, ?_⟩
      · exact List.forall_mem_cons.2 ⟨.char opening closing (fun h => (hc h).elim) hoption, hothers⟩
      · rw [List.intercalate_cons_cons_left]
  | @group commas inner rest inside _ _ ih =>
    obtain ⟨options, hne, hoptions, rfl⟩ := ih hcommas
    obtain ⟨option, others, rfl⟩ := List.exists_cons_of_ne_nil hne
    obtain ⟨hoption, hothers⟩ := List.forall_mem_cons.1 hoptions
    refine ⟨('{' :: inner ++ '}' :: option) :: others, List.cons_ne_nil _ _, ?_, ?_⟩
    · exact List.forall_mem_cons.2 ⟨.group inside hoption, hothers⟩
    · cases others <;> simp [List.intercalate_cons_cons]

/-- What the reader of a group takes in while `depth` further braces are open: balanced texts and
the braces that close them. -/
def EndsGroup : Nat → List Char → List Char → Prop
  | 0, text, after => ∃ inner, Balanced true inner ∧ text = inner ++ '}' :: after
  | depth + 1, text, after =>
    ∃ inner rest, Balanced true inner ∧ text = inner ++ '}' :: rest ∧ EndsGroup depth rest after

theorem EndsGroup.char {depth : Nat} {c : Char} (hopen : c ≠ '{') (hclose : c ≠ '}')
    (h : EndsGroup depth text after) : EndsGroup depth (c :: text) after := by
  cases depth with
  | zero =>
    obtain ⟨inner, hinner, rfl⟩ := h
    exact ⟨c :: inner, .char hopen hclose (fun _ => rfl) hinner, rfl⟩
  | succ depth =>
    obtain ⟨inner, rest, hinner, rfl, hrest⟩ := h
    exact ⟨c :: inner, rest, .char hopen hclose (fun _ => rfl) hinner, rfl, hrest⟩

theorem EndsGroup.opening {depth : Nat} (h : EndsGroup (depth + 1) text after) :
    EndsGroup depth ('{' :: text) after := by
  obtain ⟨inner, rest, hinner, rfl, hrest⟩ := h
  cases depth with
  | zero =>
    obtain ⟨more, hmore, rfl⟩ := hrest
    exact ⟨'{' :: inner ++ '}' :: more, .group hinner hmore, by simp⟩
  | succ depth =>
    obtain ⟨more, rest, hmore, rfl, hrest⟩ := hrest
    exact ⟨'{' :: inner ++ '}' :: more, rest, .group hinner hmore, by simp, hrest⟩

theorem endsGroup_of_takeOptions {depth : Nat} {option : List Char}
    (h : takeOptions depth option text = some (options, after)) : EndsGroup depth text after := by
  fun_induction takeOptions depth option text generalizing options after with
  | case1 | case5 => cases h
  | case2 depth option rest ih => exact (ih h).opening
  | case3 option rest =>
    cases h
    exact ⟨[], .nil, rfl⟩
  | case4 option rest depth _ ih => exact ⟨[], rest, .nil, rfl, ih h⟩
  | case6 depth option c rest hopen hclose hcomma others after hothers ih =>
    cases h
    obtain ⟨rfl, rfl⟩ : c = ',' ∧ depth = 0 := by simpa using hcomma
    exact (ih hothers).char hopen hclose
  | case7 depth option c rest hopen hclose hcomma ih => exact (ih h).char hopen hclose

/-- A group is read where options stand before a closing brace. They are the only ones that can be
read there. -/
theorem takeOptions_iff :
    takeOptions 0 [] text = some (options, after) ↔
      options ≠ [] ∧ (∀ option ∈ options, Balanced false option) ∧
        text = [','].intercalate options ++ '}' :: after := by
  constructor
  · intro h
    obtain ⟨inner, hinner, rfl⟩ := endsGroup_of_takeOptions h
    obtain ⟨found, hne, hfound, rfl⟩ := exists_options hinner
    rw [takeOptions_intercalate hne hfound] at h
    cases h
    exact ⟨hne, hfound, rfl⟩
  · rintro ⟨hne, hoptions, rfl⟩
    exact takeOptions_intercalate hne hoptions after

/-- Whether a brace is closed in the text behind it. -/
def ClosedIn (behind : List Char) : Prop :=
  ∃ inner rest, Balanced true inner ∧ behind = inner ++ '}' :: rest

theorem takeOptions_eq_none_iff : takeOptions 0 [] text = none ↔ ¬ ClosedIn text := by
  constructor
  · rintro hnone ⟨inner, rest, hinner, rfl⟩
    obtain ⟨options, hne, hoptions, rfl⟩ := exists_options hinner
    rw [takeOptions_intercalate hne hoptions] at hnone
    cases hnone
  · intro hopen
    cases htake : takeOptions 0 [] text with
    | none => rfl
    | some found =>
      obtain ⟨inner, hinner, htext⟩ := endsGroup_of_takeOptions htake
      exact (hopen ⟨inner, found.2, hinner, htext⟩).elim

/-- A brace is closed at one place only. -/
theorem Balanced.unique {inner inner' rest rest' : List Char} (hinner : Balanced true inner)
    (hinner' : Balanced true inner') (h : inner ++ '}' :: rest = inner' ++ '}' :: rest') :
    inner = inner' ∧ rest = rest' := by
  obtain ⟨options, hne, hoptions, rfl⟩ := exists_options hinner
  obtain ⟨options', hne', hoptions', rfl⟩ := exists_options hinner'
  have hread := takeOptions_intercalate hne hoptions rest
  rw [h, takeOptions_intercalate hne' hoptions'] at hread
  cases hread
  exact ⟨rfl, rfl⟩

/-- A text with a comma of its own is more than one option. -/
theorem not_balanced_comma (hfirst : Balanced true first) (hsecond : Balanced true second) :
    ¬ Balanced false (first ++ ',' :: second) := by
  intro hsingle
  obtain ⟨options, hne, hoptions, rfl⟩ := exists_options hfirst
  obtain ⟨others, hne', hothers, rfl⟩ := exists_options hsecond
  rw [← intercalate_append hne hne'] at hsingle
  have hboth : ∀ option ∈ options ++ others, Balanced false option := fun option hoption =>
    (List.mem_append.1 hoption).elim (hoptions option) (hothers option)
  have hread := takeOptions_intercalate (List.append_ne_nil_of_left_ne_nil hne others) hboth []
  have hone := takeOptions_intercalate (List.cons_ne_nil _ []) (by simpa using hsingle) []
  rw [List.intercalate_singleton, hread] at hone
  have hlength := congrArg List.length (Prod.mk.inj (Option.some.inj hone)).1
  have hpos := List.length_pos_of_ne_nil hne
  have hpos' := List.length_pos_of_ne_nil hne'
  rw [List.length_append, List.length_singleton] at hlength
  omega

/-- Two options or more are no single one. -/
theorem exists_comma (hmore : 2 ≤ options.length)
    (h : ∀ option ∈ options, Balanced false option) :
    ∃ first second, Balanced true first ∧ Balanced true second ∧
      [','].intercalate options = first ++ ',' :: second := by
  match options, hmore with
  | option :: other :: others, _ =>
    obtain ⟨hoption, hothers⟩ := List.forall_mem_cons.1 h
    refine ⟨option, [','].intercalate (other :: others), hoption.weaken,
      balanced_intercalate hothers, ?_⟩
    rw [List.intercalate_cons_cons, List.append_assoc]
    rfl

/-! ## Opening braces -/

/-- Whether some opening brace has a text behind it for which `P` holds. -/
def BraceBefore (P : List Char → Prop) (text : List Char) : Prop :=
  ∃ behind, '{' :: behind <:+ text ∧ P behind

section Places

variable {P : List Char → Prop} {Q : List Char → Prop}

theorem braceBefore_nil : ¬ BraceBefore P [] := by
  rintro ⟨behind, hsuffix, -⟩
  exact List.cons_ne_nil _ _ (List.suffix_nil.1 hsuffix)

theorem braceBefore_cons (c : Char) (text : List Char) :
    BraceBefore P (c :: text) ↔ (c = '{' ∧ P text) ∨ BraceBefore P text := by
  constructor
  · rintro ⟨behind, hsuffix, h⟩
    rcases List.suffix_cons_iff.1 hsuffix with heq | hsuffix
    · cases heq
      exact .inl ⟨rfl, h⟩
    · exact .inr ⟨behind, hsuffix, h⟩
  · rintro (⟨rfl, h⟩ | ⟨behind, hsuffix, h⟩)
    · exact ⟨text, List.suffix_rfl, h⟩
    · exact ⟨behind, List.suffix_cons_iff.2 (.inr hsuffix), h⟩

theorem braceBefore_char {c : Char} (hc : c ≠ '{') (text : List Char) :
    BraceBefore P (c :: text) ↔ BraceBefore P text := by
  rw [braceBefore_cons]
  exact or_iff_right fun h => hc h.1

theorem braceBefore_append_left {before : List Char} (h : '{' ∉ before) (text : List Char) :
    BraceBefore P (before ++ text) ↔ BraceBefore P text := by
  induction before with
  | nil => rfl
  | cons c before ih =>
    have hc : c ≠ '{' := fun hc => h (hc ▸ List.mem_cons_self)
    rw [List.cons_append, braceBefore_char hc, ih fun hmem => h (List.mem_cons_of_mem c hmem)]

theorem braceBefore_of_not_mem (h : '{' ∉ text) : ¬ BraceBefore P text := by
  rw [← List.append_nil text, braceBefore_append_left h]
  exact braceBefore_nil

theorem BraceBefore.of_suffix {more : List Char} (h : BraceBefore P text) (hmore : text <:+ more) :
    BraceBefore P more := by
  obtain ⟨behind, hsuffix, h⟩ := h
  exact ⟨behind, hsuffix.trans hmore, h⟩

/-- At a brace that is closed, only what the pair of braces encloses counts for `P`. -/
def Local (P Q : List Char → Prop) : Prop :=
  ∀ inner rest, Balanced true inner → (P (inner ++ '}' :: rest) ↔ Q inner)

/-- An opening brace stands in a balanced text or behind it, and what counts there is the same as if
the two stood alone. -/
theorem braceBefore_balanced (hlocal : Local P Q) {commas : Bool} (h : Balanced commas text)
    (after : List Char) :
    BraceBefore P (text ++ after) ↔ BraceBefore P text ∨ BraceBefore P after := by
  induction h generalizing after with
  | nil => exact (or_iff_right braceBefore_nil).symm
  | char opening _ _ _ ih =>
    rw [List.cons_append, braceBefore_char opening, braceBefore_char opening, ih]
  | @group _ inner more inside _ ihinner ihmore =>
    have hclose : '}' ≠ '{' := by decide
    rw [List.append_assoc, List.cons_append, List.cons_append, List.cons_append, braceBefore_cons,
      braceBefore_cons, hlocal _ _ inside, hlocal _ _ inside, ihinner, ihinner,
      braceBefore_char hclose, braceBefore_char hclose, ihmore]
    simp only [or_assoc]

theorem braceBefore_pair (hlocal : Local P Q) {inner : List Char} (h : Balanced true inner)
    (rest : List Char) :
    BraceBefore P ('{' :: inner ++ '}' :: rest) ↔
      Q inner ∨ BraceBefore P inner ∨ BraceBefore P rest := by
  rw [List.cons_append, braceBefore_cons, hlocal _ _ h, braceBefore_balanced hlocal h,
    braceBefore_char (by decide)]
  simp only [true_and]

theorem braceBefore_intercalate (hlocal : Local P Q)
    (h : ∀ option ∈ options, Balanced false option) :
    BraceBefore P ([','].intercalate options) ↔ ∃ option ∈ options, BraceBefore P option := by
  induction options with
  | nil => simpa using braceBefore_nil
  | cons option others ih =>
    obtain ⟨hoption, hothers⟩ := List.forall_mem_cons.1 h
    cases others with
    | nil => simp
    | cons other others =>
      rw [List.intercalate_cons_cons, List.append_assoc, braceBefore_balanced hlocal hoption,
        List.singleton_append, braceBefore_char (by decide), ih hothers]
      simp only [List.exists_mem_cons_iff]

end Places

/-! ## Groups -/

/-- Whether a text holds a group that could be expanded: balanced texts with a comma between them,
in a pair of braces. -/
def HasGroup (text : List Char) : Prop :=
  ∃ first second, Balanced true first ∧ Balanced true second ∧
    '{' :: first ++ ',' :: second ++ ['}'] <:+: text

/-- The groups of a glob that its reader does not come to. -/
inductive Shielded : List Char → Prop where
  /-- A group behind a brace that is never closed. -/
  | behind {before behind : List Char} (never : ¬ ClosedIn behind) (group : HasGroup behind) :
      Shielded (before ++ '{' :: behind)
  /-- A group inside a pair of braces without a comma of its own. -/
  | inside {before option after : List Char} (single : Balanced false option)
      (group : HasGroup option) : Shielded (before ++ '{' :: option ++ '}' :: after)

/-- What stands between the braces of a group. -/
def Commas (inner : List Char) : Prop :=
  ∃ first second, Balanced true first ∧ Balanced true second ∧ inner = first ++ ',' :: second

/-- What stands behind the brace that opens a group. -/
def OpensGroup (behind : List Char) : Prop :=
  ∃ inner rest, Commas inner ∧ behind = inner ++ '}' :: rest

/-- What stands behind a brace that shields a group. -/
def Shields (behind : List Char) : Prop :=
  (¬ ClosedIn behind ∧ HasGroup behind) ∨
    ∃ option after, Balanced false option ∧ HasGroup option ∧ behind = option ++ '}' :: after

theorem hasGroup_iff : HasGroup text ↔ BraceBefore OpensGroup text := by
  constructor
  · rintro ⟨first, second, hfirst, hsecond, before, after, rfl⟩
    refine ⟨first ++ ',' :: second ++ '}' :: after, ⟨before, by simp⟩, ?_⟩
    exact ⟨_, after, ⟨first, second, hfirst, hsecond, rfl⟩, rfl⟩
  · rintro ⟨-, ⟨before, rfl⟩, -, after, ⟨first, second, hfirst, hsecond, rfl⟩, rfl⟩
    exact ⟨first, second, hfirst, hsecond, before, after, by simp⟩

theorem shielded_iff : Shielded text ↔ BraceBefore Shields text := by
  constructor
  · rintro (⟨hnever, hgroup⟩ | ⟨hsingle, hgroup⟩)
    · exact ⟨_, List.suffix_append _ _, .inl ⟨hnever, hgroup⟩⟩
    · rw [List.append_assoc, List.cons_append]
      exact ⟨_, List.suffix_append _ _, .inr ⟨_, _, hsingle, hgroup, rfl⟩⟩
  · rintro ⟨behind, ⟨before, rfl⟩, ⟨hnever, hgroup⟩ | ⟨option, after, hsingle, hgroup, rfl⟩⟩
    · exact .behind hnever hgroup
    · rw [← List.cons_append, ← List.append_assoc]
      exact .inside hsingle hgroup

theorem local_opensGroup : Local OpensGroup Commas := by
  intro inner rest hinner
  constructor
  · rintro ⟨inner', rest', ⟨first, second, hfirst, hsecond, rfl⟩, h⟩
    obtain ⟨rfl, -⟩ := hinner.unique (hfirst.comma hsecond) h
    exact ⟨first, second, hfirst, hsecond, rfl⟩
  · intro hcommas
    exact ⟨inner, rest, hcommas, rfl⟩

theorem local_shields : Local Shields fun inner => Balanced false inner ∧ HasGroup inner := by
  intro inner rest hinner
  constructor
  · rintro (⟨hnever, -⟩ | ⟨option, after, hsingle, hgroup, h⟩)
    · exact (hnever ⟨inner, rest, hinner, rfl⟩).elim
    · obtain ⟨rfl, -⟩ := hinner.unique hsingle.weaken h
      exact ⟨hsingle, hgroup⟩
  · rintro ⟨hsingle, hgroup⟩
    exact .inr ⟨inner, rest, hsingle, hgroup, rfl⟩

/-- A group that is shielded is there. -/
theorem hasGroup_of_shielded (h : BraceBefore Shields text) : BraceBefore OpensGroup text := by
  obtain ⟨behind, hsuffix, ⟨-, hgroup⟩ | ⟨option, after, -, hgroup, rfl⟩⟩ := h
  · exact (hasGroup_iff.1 hgroup).of_suffix ((List.suffix_cons _ _).trans hsuffix)
  · obtain ⟨first, second, hfirst, hsecond, hinfix⟩ := hgroup
    refine hasGroup_iff.1 ⟨first, second, hfirst, hsecond, hinfix.trans ?_⟩
    exact (List.infix_append' ['{'] option ('}' :: after)).trans hsuffix.isInfix

theorem commas_iff {inner : List Char} (h : Balanced true inner) :
    Commas inner ↔ ¬ Balanced false inner := by
  constructor
  · rintro ⟨first, second, hfirst, hsecond, rfl⟩
    exact not_balanced_comma hfirst hsecond
  · intro hmore
    obtain ⟨options, hne, hoptions, rfl⟩ := exists_options h
    rcases options with _ | ⟨option, _ | ⟨other, others⟩⟩
    · exact (hne rfl).elim
    · exact (hmore (by simpa using hoptions)).elim
    · exact exists_comma (by simp) hoptions

/-- A brace that is never closed opens no group, and the groups behind it are shielded. -/
theorem hasGroup_unclosed (hnever : ¬ ClosedIn text) :
    BraceBefore OpensGroup ('{' :: text) ↔ BraceBefore OpensGroup text := by
  rw [braceBefore_cons]
  refine or_iff_right ?_
  rintro ⟨-, inner, rest, ⟨first, second, hfirst, hsecond, rfl⟩, rfl⟩
  exact hnever ⟨_, rest, hfirst.comma hsecond, rfl⟩

theorem shielded_unclosed (hnever : ¬ ClosedIn text) :
    BraceBefore Shields ('{' :: text) ↔ BraceBefore OpensGroup text := by
  rw [braceBefore_cons]
  constructor
  · rintro (⟨-, ⟨-, hgroup⟩ | ⟨option, rest, hsingle, -, rfl⟩⟩ | h)
    · exact hasGroup_iff.1 hgroup
    · exact (hnever ⟨option, rest, hsingle.weaken, rfl⟩).elim
    · exact hasGroup_of_shielded h
  · intro h
    exact .inl ⟨rfl, .inl ⟨hnever, hasGroup_iff.2 h⟩⟩

/-- A pair of braces without a comma of its own is no group, and the groups inside are shielded. -/
theorem hasGroup_single {option : List Char} (h : Balanced false option) (rest : List Char) :
    BraceBefore OpensGroup ('{' :: option ++ '}' :: rest) ↔
      BraceBefore OpensGroup option ∨ BraceBefore OpensGroup rest := by
  rw [braceBefore_pair local_opensGroup h.weaken]
  exact or_iff_right fun hcommas => (commas_iff h.weaken).1 hcommas h

theorem shielded_single {option : List Char} (h : Balanced false option) (rest : List Char) :
    BraceBefore Shields ('{' :: option ++ '}' :: rest) ↔
      BraceBefore OpensGroup option ∨ BraceBefore Shields rest := by
  rw [braceBefore_pair local_shields h.weaken, ← or_assoc, hasGroup_iff]
  refine or_congr_left ⟨?_, fun hgroup => .inl ⟨h, hgroup⟩⟩
  rintro (⟨-, hgroup⟩ | hshielded)
  · exact hgroup
  · exact hasGroup_of_shielded hshielded

/-- The braces of a group shield nothing that its options do not shield. -/
theorem shielded_several (hmore : 2 ≤ options.length)
    (h : ∀ option ∈ options, Balanced false option) (rest : List Char) :
    BraceBefore Shields ('{' :: [','].intercalate options ++ '}' :: rest) ↔
      (∃ option ∈ options, BraceBefore Shields option) ∨ BraceBefore Shields rest := by
  have hinner := balanced_intercalate h
  rw [braceBefore_pair local_shields hinner, braceBefore_intercalate local_shields h]
  exact or_iff_right fun hsingle => (commas_iff hinner).1 (exists_comma hmore h) hsingle.1

/-! ## Variants -/

theorem exists_mem_or {α : Type} {items : List α} (hne : items ≠ []) {p : α → Prop} {q : Prop} :
    (∃ item ∈ items, p item ∨ q) ↔ (∃ item ∈ items, p item) ∨ q := by
  constructor
  · rintro ⟨item, hitem, h | h⟩
    · exact .inl ⟨item, hitem, h⟩
    · exact .inr h
  · rintro (⟨item, hitem, h⟩ | h)
    · exact ⟨item, hitem, .inl h⟩
    · obtain ⟨item, hitem⟩ := List.exists_mem_of_ne_nil items hne
      exact ⟨item, hitem, .inr h⟩

theorem Expands.ne_nil {glob : List Char} {variants : List (List Char)}
    (h : Expands glob variants) : variants ≠ [] := by
  induction h with
  | plain | unclosed => exact List.cons_ne_nil _ _
  | single _ _ _ ih => simpa using ih
  | several _ htake _ _ ih =>
    obtain ⟨option, hoption⟩ := List.exists_mem_of_ne_nil _ (takeOptions_iff.1 htake).1
    intro hnil
    exact ih option hoption (List.flatMap_eq_nil_iff.1 hnil option hoption)

/-- A group is left in a variant where one is shielded. -/
theorem hasGroup_expand_iff (glob : List Char) :
    (∃ variant ∈ expand glob, HasGroup variant) ↔ Shielded glob := by
  have hrun := expands_expand glob
  generalize expand glob = variants at hrun
  simp only [hasGroup_iff, shielded_iff]
  -- by induction on the run; no step shields a group or uncovers one
  induction hrun with
  | @plain glob hplain =>
    simp only [List.mem_singleton, exists_eq_left]
    exact iff_of_false (braceBefore_of_not_mem hplain) (braceBefore_of_not_mem hplain)
  | @unclosed before inner hfirst htake =>
    have hnever := takeOptions_eq_none_iff.1 htake
    simp only [List.mem_singleton, exists_eq_left]
    rw [braceBefore_append_left hfirst, braceBefore_append_left hfirst, hasGroup_unclosed hnever,
      shielded_unclosed hnever]
  | @single before inner option after rests hfirst htake hrests ih =>
    obtain ⟨-, hoption, rfl⟩ := takeOptions_iff.1 htake
    rw [List.forall_mem_singleton] at hoption
    -- the pair stays in every variant, with all that is inside it
    have hvariant : ∀ rest, BraceBefore OpensGroup (before ++ '{' :: option ++ '}' :: rest) ↔
        BraceBefore OpensGroup rest ∨ BraceBefore OpensGroup option := fun rest => by
      rw [List.append_assoc, braceBefore_append_left hfirst, hasGroup_single hoption, or_comm]
    have hbehind : (∃ rest ∈ rests, BraceBefore OpensGroup rest) ↔ BraceBefore Shields after := ih
    have hglob := shielded_single hoption after
    rw [List.intercalate_singleton, braceBefore_append_left hfirst, ← List.cons_append, hglob,
      ← hbehind, or_comm, ← exists_mem_or hrests.ne_nil]
    simp only [List.mem_map, exists_exists_and_eq_and, hvariant]
  | @several before inner after options variants hfirst htake hmore hvariants ih =>
    obtain ⟨hne, hoptions, rfl⟩ := takeOptions_iff.1 htake
    have hlength : 2 ≤ options.length := by
      have hpos := List.length_pos_of_ne_nil hne
      omega
    -- an option closes its braces, so it shields nothing of what is put behind it
    have hoption : ∀ option ∈ options, (BraceBefore Shields (before ++ option ++ after) ↔
        BraceBefore Shields option ∨ BraceBefore Shields after) := fun option h => by
      rw [List.append_assoc, braceBefore_append_left hfirst,
        braceBefore_balanced local_shields (hoptions option h)]
    have hglob := shielded_several hlength hoptions after
    rw [braceBefore_append_left hfirst, ← List.cons_append, hglob, ← exists_mem_or hne]
    constructor
    · rintro ⟨variant, hmem, hgroup⟩
      obtain ⟨option, h, hvariant⟩ := List.mem_flatMap.1 hmem
      exact ⟨option, h, (hoption option h).1 ((ih option h).1 ⟨variant, hvariant, hgroup⟩)⟩
    · rintro ⟨option, h, hshielded⟩
      obtain ⟨variant, hvariant, hgroup⟩ := (ih option h).2 ((hoption option h).2 hshielded)
      exact ⟨variant, List.mem_flatMap.2 ⟨option, h, hvariant⟩, hgroup⟩

theorem comma_of_hasGroup (h : HasGroup text) : ',' ∈ text := by
  obtain ⟨first, second, -, -, before, after, rfl⟩ := h
  simp

/-- A glob is expanded completely, so that none of its variants holds a group any more, if and only
if none of its groups is shielded. What stands in front of a brace that is never closed is expanded
all the same; the brace and all that is behind it stay as they are. -/
theorem expansion_complete_iff (glob : List Char) :
    ((∀ variant ∈ expand glob, ¬ HasGroup variant) ↔ ¬ Shielded glob) ∧
    (∀ front behind, glob = front ++ '{' :: behind → Closes front → ¬ ClosedIn behind →
      expand glob = (expand front).map (· ++ '{' :: behind)) := by
  constructor
  · rw [← hasGroup_expand_iff]
    simp only [not_exists, not_and]
  · rintro front behind rfl hfront hnever
    have hbehind : expand ('{' :: behind) = ['{' :: behind] :=
      expand_unclosed List.not_mem_nil (takeOptions_eq_none_iff.2 hnever)
    rw [expand_append hfront, hbehind]
    simp only [List.map_cons, List.map_nil, ← List.map_eq_flatMap]

/-- A group, a pair of braces without a comma, and a brace that is never closed. -/
theorem expansion_complete_never_closed :
    Closes ['{', 'a', ',', 'b', '}', '{', 'c', '}'] ∧ ¬ ClosedIn ['d'] ∧
    expand ['{', 'a', ',', 'b', '}', '{', 'c', '}', '{', 'd'] =
      [['a', '{', 'c', '}', '{', 'd'], ['b', '{', 'c', '}', '{', 'd']] ∧
    ¬ Shielded ['{', 'a', ',', 'b', '}', '{', 'c', '}', '{', 'd'] := by
  have hfront : Closes ['{', 'a', ',', 'b', '}', '{', 'c', '}'] := by decide
  have hnever : ¬ ClosedIn ['d'] := takeOptions_eq_none_iff.1 rfl
  obtain ⟨hcomplete, hunclosed⟩ :=
    expansion_complete_iff ['{', 'a', ',', 'b', '}', '{', 'c', '}', '{', 'd']
  have hexpand := hunclosed _ _ rfl hfront hnever
  have hvariants : expand ['{', 'a', ',', 'b', '}', '{', 'c', '}'] =
      [['a', '{', 'c', '}'], ['b', '{', 'c', '}']] := by decide
  rw [hvariants] at hexpand
  refine ⟨hfront, hnever, hexpand, hcomplete.1 fun variant hvariant hgroup => ?_⟩
  have hcomma := comma_of_hasGroup hgroup
  rw [hexpand] at hvariant
  -- neither variant has a comma
  obtain rfl | rfl : variant = ['a', '{', 'c', '}', '{', 'd'] ∨
      variant = ['b', '{', 'c', '}', '{', 'd'] := by simpa using hvariant
  · simp at hcomma
  · simp at hcomma

/-- A group behind a brace that is never closed, and one inside a pair of braces without a comma:
neither is expanded. -/
theorem groups_left :
    (∃ variant ∈ expand ['{', 'x', '{', 'a', ',', 'b', '}'], HasGroup variant) ∧
    (∃ variant ∈ expand ['{', '{', 'a', ',', 'b', '}', '}'], HasGroup variant) := by
  have ha : Balanced true ['a'] := .char (by decide) (by decide) (fun _ => rfl) .nil
  have hb : Balanced true ['b'] := .char (by decide) (by decide) (fun _ => rfl) .nil
  have hgroup : ∀ before after, HasGroup (before ++ ['{', 'a', ',', 'b', '}'] ++ after) :=
    fun before after => ⟨['a'], ['b'], ha, hb, before, after, rfl⟩
  constructor
  · exact ⟨_, List.mem_singleton.2 rfl, hgroup ['{', 'x'] []⟩
  · exact ⟨_, List.mem_singleton.2 rfl, hgroup ['{'] ['}']⟩

end CommitRules.Glob
