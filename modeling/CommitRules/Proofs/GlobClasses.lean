import CommitRules.Proofs.GlobLanguage
import CommitRules.Proofs.Returning

/-!
# CommitRules.Proofs.GlobClasses

Classes of characters in brackets, and what negates them. A negated class is read with a slash in
front of its set, so that it never takes a slash in. A hyphen that begins the set then stands
between two characters, and is read as a range.

* `Plain.takes_iff`: the paths that a list of one glob takes in.
* `inSet_slash`, `rangesInOrder_slash`: a slash in front of a set.
* `class_complemented_iff`: the sets whose negated class is the complement of the class.
-/

namespace CommitRules.Glob

/-! ## Single globs -/

/-- A glob that is read as it stands: it has no alternatives, is not negated and can be compiled. -/
structure Plain (glob : String) : Prop where
  whole : '{' ∉ glob.toList
  positive : glob.toList.head? ≠ some '!'
  compiled : Returns (compile glob.toList)

section Single

variable {glob path : String}

theorem Plain.exists_taken (h : Plain glob) (path : String) :
    ∃ taken, takes [glob] path = .ok taken ∧
      (taken = true ↔ Spells (pieces glob.toList) path.toList) := by
  obtain ⟨node, hnode⟩ := h.compiled
  exact takes_plain h.whole h.positive hnode path

theorem Plain.takes_iff (h : Plain glob) :
    takes [glob] path = .ok true ↔ Spells (pieces glob.toList) path.toList := by
  obtain ⟨taken, htakes, htaken⟩ := h.exists_taken path
  rw [htakes, ← htaken, Except.ok.injEq]

theorem Plain.takes_false_iff (h : Plain glob) :
    takes [glob] path = .ok false ↔ ¬ Spells (pieces glob.toList) path.toList := by
  obtain ⟨taken, htakes, htaken⟩ := h.exists_taken path
  rw [htakes, ← htaken, Except.ok.injEq, Bool.not_eq_true]

theorem Plain.takes_congr {other : String} (h : Plain glob) (hother : Plain other)
    (hpieces : pieces glob.toList = pieces other.toList) :
    takes [glob] path = takes [other] path := by
  by_cases hspells : Spells (pieces other.toList) path.toList
  · rw [hother.takes_iff.2 hspells, h.takes_iff.2 (hpieces ▸ hspells)]
  · rw [hother.takes_false_iff.2 hspells, h.takes_false_iff.2 (hpieces ▸ hspells)]

end Single

/-! ## Sets -/

section Sets

variable {set : List Char} {c : Char}

theorem inSet_slash (h : ∀ high rest, set = '-' :: high :: rest → False) :
    inSet c ('/' :: set) = (c == '/' || inSet c set) := by
  rw [inSet]
  exact h

theorem rangesInOrder_slash (h : ∀ high rest, set = '-' :: high :: rest → False) :
    rangesInOrder ('/' :: set) = rangesInOrder set := by
  rw [rangesInOrder]
  exact h

/-- A negated class never takes a slash in. -/
theorem slash_inSet (h : rangesInOrder ('/' :: set) = true) : inSet '/' ('/' :: set) = true := by
  by_cases hhyphen : ∃ high rest, set = '-' :: high :: rest
  · obtain ⟨high, rest, rfl⟩ := hhyphen
    rw [rangesInOrder, Bool.and_eq_true] at h
    rw [inSet, h.1, decide_eq_true (Char.le_refl '/')]
    rfl
  · rw [inSet_slash fun high rest h => hhyphen ⟨high, rest, h⟩]
    rfl

/-- Whether a slash in front of a set adds itself and changes nothing else. A hyphen that begins the
set and has something behind it becomes a range from the slash on. -/
def LeadsAlike (set : List Char) : Prop :=
  ∀ high rest, set = '-' :: high :: rest → '/' ≤ high ∧ rangesInOrder rest = true ∧
    ∀ c, c ≠ '/' → inSet c set = (('/' ≤ c && c ≤ high) || inSet c rest)

theorem leadsAlike_iff (h : rangesInOrder set = true) :
    LeadsAlike set ↔
      rangesInOrder ('/' :: set) = true ∧
        ∀ c, c ≠ '/' → inSet c ('/' :: set) = inSet c set := by
  by_cases hhyphen : ∃ high rest, set = '-' :: high :: rest
  · obtain ⟨high, rest, rfl⟩ := hhyphen
    rw [rangesInOrder, Bool.and_eq_true, decide_eq_true_eq]
    constructor
    · intro hleads
      obtain ⟨hhigh, hrest, hset⟩ := hleads high rest rfl
      exact ⟨⟨hhigh, hrest⟩, fun c hc => by rw [hset c hc, inSet]⟩
    · rintro ⟨⟨hhigh, hrest⟩, hset⟩ _ _ ⟨⟩
      exact ⟨hhigh, hrest, fun c hc => by rw [← hset c hc, inSet]⟩
  · have hnone : ∀ high rest, set = '-' :: high :: rest → False := fun high rest h =>
      hhyphen ⟨high, rest, h⟩
    refine iff_of_true (fun high rest h => (hnone high rest h).elim) ⟨?_, fun c hc => ?_⟩
    · rw [rangesInOrder_slash hnone, h]
    · rw [inSet_slash hnone, beq_false_of_ne hc, Bool.false_or]

end Sets

/-! ## Classes -/

section Classes

variable {set : List Char} {mark : Char}

theorem pieces_class (hne : set ≠ []) (hclosing : ']' ∉ set)
    (hmark : set.head? ≠ some '!' ∧ set.head? ≠ some '^') :
    pieces ('[' :: set ++ [']']) = [.oneOf false set] := by
  obtain ⟨first, body, rfl⟩ := List.exists_cons_of_ne_nil hne
  have hfirst : first ≠ '!' ∧ first ≠ '^' := by simpa using hmark
  exact pieces_of_starts (.oneOf hfirst fun hmem => hclosing (List.mem_cons_of_mem first hmem))

theorem pieces_negated (hmark : mark = '!' ∨ mark = '^') (hclosing : ']' ∉ set) :
    pieces ('[' :: mark :: set ++ [']']) = [.oneOf true set] :=
  pieces_of_starts (.noneOf hmark hclosing)

theorem returns_class_iff {glob : List Char} {negated : Bool}
    (hpieces : pieces glob = [.oneOf negated set]) :
    Returns (compile glob) ↔ rangesInOrder (if negated then '/' :: set else set) = true := by
  rw [returns_compile_iff, hpieces, List.all_cons, List.all_nil, Bool.and_true]
  cases negated <;> rfl

theorem takes_class {glob : String} {negated : Bool} (h : Plain glob)
    (hpieces : pieces glob.toList = [.oneOf negated set]) (c : Char) :
    takes [glob] (String.singleton c) =
      .ok (inSet c (if negated then '/' :: set else set) != negated) := by
  obtain ⟨taken, htakes, htaken⟩ := h.exists_taken (String.singleton c)
  rw [hpieces, spells_single, String.toList_singleton] at htaken
  rw [htakes, Except.ok.injEq, Bool.eq_iff_iff, htaken]
  cases negated <;> simp [Piece.Spells]

end Classes

/-- What is to be expected of the two negations of a class: they can be compiled, they mean the
same, and they take in every character that the class does not take in, but never a slash. -/
structure Complemented (set : String) : Prop where
  bang : Returns (compile ("[!" ++ set ++ "]").toList)
  caret : Returns (compile ("[^" ++ set ++ "]").toList)
  opposite : ∀ c, c ≠ '/' → ∃ taken,
    takes ["[" ++ set ++ "]"] (String.singleton c) = .ok taken ∧
      takes ["[!" ++ set ++ "]"] (String.singleton c) = .ok (!taken)
  same : ∀ path, takes ["[^" ++ set ++ "]"] path = takes ["[!" ++ set ++ "]"] path
  slash : takes ["[!" ++ set ++ "]"] "/" = .ok false ∧ takes ["[^" ++ set ++ "]"] "/" = .ok false

/-- The negations of a class are its complement if and only if the slash that is put in front of the
set changes nothing in it: the set does not begin with a hyphen that something follows, or the range
that begins at the slash happens to make up for it. -/
theorem class_complemented_iff (set : String) (hne : set ≠ "") (hclosing : ']' ∉ set.toList)
    (hbrace : '{' ∉ set.toList)
    (hmark : set.toList.head? ≠ some '!' ∧ set.toList.head? ≠ some '^')
    (hcompiled : Returns (compile ("[" ++ set ++ "]").toList)) :
    Complemented set ↔ LeadsAlike set.toList := by
  have hset : set.toList ≠ [] := fun h => hne (String.toList_injective h)
  have hclass : pieces ("[" ++ set ++ "]").toList = [.oneOf false set.toList] := by
    simpa using pieces_class hset hclosing hmark
  have hbang : pieces ("[!" ++ set ++ "]").toList = [.oneOf true set.toList] := by
    simpa using pieces_negated (.inl rfl) hclosing
  have hcaret : pieces ("[^" ++ set ++ "]").toList = [.oneOf true set.toList] := by
    simpa using pieces_negated (.inr rfl) hclosing
  have hplain : Plain ("[" ++ set ++ "]") := ⟨by simpa using hbrace, by simp, hcompiled⟩
  have hplainBang : Returns (compile ("[!" ++ set ++ "]").toList) → Plain ("[!" ++ set ++ "]") :=
    fun h => ⟨by simpa using hbrace, by simp, h⟩
  have hclassOrder : rangesInOrder set.toList = true := (returns_class_iff hclass).1 hcompiled
  rw [leadsAlike_iff hclassOrder]
  constructor
  · intro h
    refine ⟨(returns_class_iff hbang).1 h.bang, fun c hc => ?_⟩
    obtain ⟨taken, htaken, hopposite⟩ := h.opposite c hc
    rw [takes_class hplain hclass c, Except.ok.injEq] at htaken
    rw [takes_class (hplainBang h.bang) hbang c, Except.ok.injEq] at hopposite
    simpa [← htaken] using hopposite
  · rintro ⟨horder, hsame⟩
    have hbangReturns := (returns_class_iff hbang).2 horder
    have hcaretReturns := (returns_class_iff hcaret).2 horder
    have hnegated := hplainBang hbangReturns
    have hcaretPlain : Plain ("[^" ++ set ++ "]") := ⟨by simpa using hbrace, by simp, hcaretReturns⟩
    have halike : ∀ path, takes ["[^" ++ set ++ "]"] path = takes ["[!" ++ set ++ "]"] path :=
      fun path => hcaretPlain.takes_congr hnegated (hcaret.trans hbang.symm)
    have hslash : takes ["[!" ++ set ++ "]"] "/" = .ok false := by
      have htakes := takes_class hnegated hbang '/'
      rwa [if_pos rfl, slash_inSet horder] at htakes
    refine ⟨hbangReturns, hcaretReturns, fun c hc => ?_, halike, hslash, (halike "/").trans hslash⟩
    refine ⟨_, takes_class hplain hclass c, ?_⟩
    rw [takes_class hnegated hbang c, if_pos rfl, hsame c hc]
    simp

/-- Letters, a hyphen at the end, and a range in which the slash lies. -/
theorem class_complemented_range :
    Returns (compile "[a+-9-]".toList) ∧ Complemented "a+-9-" := by
  have hpieces : pieces "[a+-9-]".toList = [.oneOf false ['a', '+', '-', '9', '-']] := rfl
  have hcompiled : Returns (compile "[a+-9-]".toList) := (returns_class_iff hpieces).2 (by decide)
  have hleads : LeadsAlike "a+-9-".toList := fun high rest h => nomatch h
  refine ⟨hcompiled, (class_complemented_iff "a+-9-" ?_ ?_ ?_ ?_ hcompiled).2 hleads⟩
  all_goals decide

/-- Sets that begin with a hyphen: the negation of the first takes the hyphen in, as the class does,
and leaves a digit out, as the class does; that of the second cannot be compiled. -/
theorem hyphen_not_complemented :
    (Returns (compile "[-a]".toList) ∧ takes ["[-a]"] "-" = .ok true ∧
      takes ["[!-a]"] "-" = .ok true ∧ takes ["[-a]"] "5" = .ok false ∧
      takes ["[!-a]"] "5" = .ok false ∧ ¬ Complemented "-a") ∧
    (Returns (compile "[-+]".toList) ∧ ¬ Returns (compile "[!-+]".toList) ∧
      ¬ Complemented "-+") := by
  have hclass : takes ["[-a]"] "-" = .ok true := rfl
  have hnegated : takes ["[!-a]"] "-" = .ok true := rfl
  have hrefused : ¬ Returns (compile "[!-+]".toList) := by
    have hpieces : pieces "[!-+]".toList = [.oneOf true ['-', '+']] := rfl
    rw [returns_class_iff hpieces]
    decide
  refine ⟨⟨⟨_, rfl⟩, hclass, hnegated, rfl, rfl, fun h => ?_⟩, ⟨_, rfl⟩, hrefused, fun h =>
    hrefused h.bang⟩
  -- both take the hyphen in
  obtain ⟨taken, htaken, hopposite⟩ := h.opposite '-' (by decide)
  cases hclass.symm.trans htaken
  cases hnegated.symm.trans hopposite

end CommitRules.Glob
