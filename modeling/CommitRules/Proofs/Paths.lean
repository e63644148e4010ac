import CommitRules.Files.Path

/-!
# CommitRules.Proofs.Paths

Reading and writing paths.

* `splitAt_intercalate`: pieces without marks are found again between the marks.
* `ofText_text`: a path whose parts could have been read is read again from what is written.
* `shownFrom_text`: such a path, once written, is shown by the way to it.
-/

namespace CommitRules

open CommitRules.Files
open CommitRules.Text

theorem splitAt_intercalate {mark : Char} {piece : List Char} {pieces : List (List Char)}
    (h : ∀ other ∈ piece :: pieces, mark ∉ other) :
    splitAt mark ([mark].intercalate (piece :: pieces)) = piece :: pieces := by
  induction pieces generalizing piece with
  | nil =>
    rw [List.intercalate_singleton]
    exact splitAt_of_not_mem (h piece List.mem_cons_self)
  | cons next pieces ih =>
    rw [List.intercalate_cons_cons, List.append_assoc, List.singleton_append,
      splitAt_append (h piece List.mem_cons_self),
      ih fun other hother => h other (List.mem_cons_of_mem piece hother)]

namespace Files.Path

/-- Whether every part could have been read: it is not empty, not a single dot, and holds no
slash. -/
def Clean (path : Path) : Prop :=
  ∀ part ∈ path.parts, part ≠ "" ∧ part ≠ "." ∧ '/' ∉ part.toList

theorem clean_ofText (text : String) : (ofText text).Clean := by
  intro part h
  simp only [ofText, partsOf, List.mem_map, List.mem_filter] at h
  obtain ⟨chars, ⟨hsplit, hkept⟩, rfl⟩ := h
  simp only [Bool.and_eq_true, Bool.not_eq_true', List.isEmpty_eq_false_iff, bne_iff_ne] at hkept
  refine ⟨fun he => hkept.1 ?_, fun he => hkept.2 ?_, ?_⟩
  · simpa using congrArg String.toList he
  · simpa using congrArg String.toList he
  · rw [String.toList_ofList]
    exact not_mem_of_mem_splitAt hsplit

theorem Clean.join {base path : Path} (hbase : base.Clean) (hpath : path.Clean) :
    (base.join path).Clean := by
  unfold Path.join
  split
  · exact hpath
  · intro part h
    rcases List.mem_append.1 h with h | h
    · exact hbase part h
    · exact hpath part h

theorem partsOf_slash (text : List Char) : partsOf ('/' :: text) = partsOf text := by
  simp [partsOf, splitAt_mark]

theorem anchorOf_append {text : List Char} (anchor : Anchor) (h : text.head? ≠ some '/') :
    anchorOf (anchor.text.toList ++ text) = anchor := by
  cases text with
  | nil => cases anchor <;> rfl
  | cons c text =>
    have hc : c ≠ '/' := fun hc => h (by rw [hc]; rfl)
    cases anchor <;> simp [Anchor.text, anchorOf, hc]

theorem partsOf_intercalate {parts : List String}
    (h : ∀ part ∈ parts, part ≠ "" ∧ part ≠ "." ∧ '/' ∉ part.toList) :
    partsOf (['/'].intercalate (parts.map String.toList)) = parts := by
  cases parts with
  | nil => rfl
  | cons first parts =>
    unfold partsOf
    rw [List.map_cons, splitAt_intercalate, ← List.map_cons, List.filter_eq_self.2, List.map_map]
    · simp [Function.comp_def]
    · intro chars hchars
      obtain ⟨part, hpart, rfl⟩ := List.mem_map.1 hchars
      obtain ⟨hempty, hdot, _⟩ := h part hpart
      simp only [Bool.and_eq_true, Bool.not_eq_true', List.isEmpty_eq_false_iff, bne_iff_ne]
      exact ⟨fun he => hempty (String.toList_inj.1 he), fun he => hdot (String.toList_inj.1 he)⟩
    · rw [← List.map_cons]
      intro chars hchars
      obtain ⟨part, hpart, rfl⟩ := List.mem_map.1 hchars
      exact (h part hpart).2.2

theorem head?_intercalate {parts : List String}
    (h : ∀ part ∈ parts, part ≠ "" ∧ part ≠ "." ∧ '/' ∉ part.toList) :
    (['/'].intercalate (parts.map String.toList)).head? ≠ some '/' := by
  cases parts with
  | nil => simp
  | cons first parts =>
    obtain ⟨hempty, _, hslash⟩ := h first List.mem_cons_self
    cases hf : first.toList with
    | nil => exact absurd (String.toList_inj.1 hf) hempty
    | cons c rest =>
      have hc : c ≠ '/' := fun hc => hslash (by rw [hf, hc]; exact List.mem_cons_self)
      cases parts <;> simp [hf, hc]

theorem ofText_text {path : Path} (h : path.Clean) : ofText path.text = path := by
  cases path with
  | mk anchor parts =>
    -- a dot is written for the relative path without parts, and no part is read from it
    by_cases hdot : anchor = .relative ∧ parts = []
    · obtain ⟨rfl, rfl⟩ := hdot
      rfl
    · have htext : (text ⟨anchor, parts⟩).toList =
          anchor.text.toList ++ ['/'].intercalate (parts.map String.toList) := by
        have hif : ¬(decide (anchor = .relative) && parts.isEmpty) = true := by simpa using hdot
        simp only [text, if_neg hif, String.toList_append, String.toList_intercalate]
        rfl
      have hanchor := anchorOf_append anchor (head?_intercalate h)
      have hparts : partsOf (anchor.text.toList ++ ['/'].intercalate (parts.map String.toList)) =
          parts := by
        cases anchor with
        | relative => exact partsOf_intercalate h
        | root => exact (partsOf_slash _).trans (partsOf_intercalate h)
        | doubleRoot =>
          exact (partsOf_slash _).trans ((partsOf_slash _).trans (partsOf_intercalate h))
      rw [ofText, htext, hanchor, hparts]

/-- What a path is called from a directory: the way to it if it lies below, or else itself. -/
def calledFrom (base path : Path) : Path := (below? base path).getD path

theorem shownFrom_text {path : Path} (base : Path) (h : path.Clean) :
    shownFrom (some base) path.text = (calledFrom base path).text := by
  simp only [shownFrom, calledFrom, ofText_text h]
  cases below? base path <;> rfl

end Files.Path

end CommitRules
