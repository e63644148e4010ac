/-!
# CommitRules.Text.Lines

Lines of a text. `unifyNewlines` turns the three spellings of a line end into one, `lines` splits
at line ends without counting an empty piece after the last one, and `Position` names a place in a
text by line and column, both from one.
-/

namespace CommitRules.Text

/-- A carriage return, alone or with the line feed behind it, becomes a line feed. -/
def unifyNewlines : List Char → List Char
  | [] => []
  | '\r' :: '\n' :: rest => '\n' :: unifyNewlines rest
  | '\r' :: rest => '\n' :: unifyNewlines rest
  | c :: rest => c :: unifyNewlines rest

/-- No carriage return is left. -/
theorem not_mem_unifyNewlines (text : List Char) : '\r' ∉ unifyNewlines text := by
  fun_induction unifyNewlines text with
  | case1 => exact List.not_mem_nil
  | case2 rest ih => simp [ih]
  | case3 rest h ih => simp [ih]
  | case4 c rest h hc ih => simp [ih, Ne.symm hc]

/-- A carriage return with the line feed behind it becomes a line feed; one alone stays. -/
def unifyReturnPairs : List Char → List Char
  | [] => []
  | '\r' :: '\n' :: rest => '\n' :: unifyReturnPairs rest
  | c :: rest => c :: unifyReturnPairs rest

/-- The pieces of a text between the occurrences of `mark`, at least one. -/
def splitAt (mark : Char) : List Char → List (List Char)
  | [] => [[]]
  | c :: rest =>
    if c = mark then [] :: splitAt mark rest
    else
      match splitAt mark rest with
      | [] => [[c]]
      | piece :: pieces => (c :: piece) :: pieces

theorem splitAt_ne_nil (mark : Char) (text : List Char) : splitAt mark text ≠ [] := by
  cases text with
  | nil => simp [splitAt]
  | cons c rest =>
    rw [splitAt]
    split
    · simp
    · split <;> simp

theorem splitAt_mark (mark : Char) (rest : List Char) :
    splitAt mark (mark :: rest) = [] :: splitAt mark rest := by
  simp [splitAt]

/-- A piece ends in front of the first mark. -/
theorem splitAt_append {mark : Char} {piece : List Char} (h : mark ∉ piece) (rest : List Char) :
    splitAt mark (piece ++ mark :: rest) = piece :: splitAt mark rest := by
  induction piece with
  | nil => exact splitAt_mark mark rest
  | cons c piece ih =>
    have hc : c ≠ mark := fun hc => h (hc ▸ List.mem_cons_self)
    rw [List.cons_append, splitAt, if_neg hc, ih fun hm => h (List.mem_cons_of_mem c hm)]

/-- A text without marks is one piece. -/
theorem splitAt_of_not_mem {mark : Char} {text : List Char} (h : mark ∉ text) :
    splitAt mark text = [text] := by
  induction text with
  | nil => rfl
  | cons c rest ih =>
    have hc : c ≠ mark := fun hc => h (hc ▸ List.mem_cons_self)
    rw [splitAt, if_neg hc, ih fun hm => h (List.mem_cons_of_mem c hm)]

/-- No piece holds the mark. -/
theorem not_mem_of_mem_splitAt {mark : Char} {text piece : List Char}
    (h : piece ∈ splitAt mark text) : mark ∉ piece := by
  induction text generalizing piece with
  | nil =>
    have hp : piece = [] := by simpa [splitAt] using h
    simp [hp]
  | cons c rest ih =>
    rw [splitAt] at h
    split at h
    · rcases List.mem_cons.1 h with hp | hp
      · simp [hp]
      · exact ih hp
    · next hc =>
      split at h
      · next hs => exact absurd hs (splitAt_ne_nil mark rest)
      · next first pieces hs =>
        rcases List.mem_cons.1 h with hp | hp
        · rw [hp]
          intro hm
          rcases List.mem_cons.1 hm with hm | hm
          · exact hc hm.symm
          · exact ih (hs ▸ List.mem_cons_self) hm
        · exact ih (hs ▸ List.mem_cons_of_mem first hp)

/-- The lines of a text. A line feed ends a line, so no line follows a final one. -/
def lines (text : List Char) : List (List Char) :=
  let pieces := splitAt '\n' text
  if pieces.getLast? = some [] then pieces.dropLast else pieces

/-- Pieces joined by `mark`. -/
def joinWith (mark : Char) : List (List Char) → List Char
  | [] => []
  | [piece] => piece
  | piece :: pieces => piece ++ mark :: joinWith mark pieces

theorem joinWith_cons (mark : Char) (piece : List Char) {pieces : List (List Char)}
    (h : pieces ≠ []) : joinWith mark (piece :: pieces) = piece ++ mark :: joinWith mark pieces := by
  cases pieces with
  | nil => exact absurd rfl h
  | cons next pieces => rfl

/-- Splitting loses nothing. -/
theorem joinWith_splitAt (mark : Char) (text : List Char) :
    joinWith mark (splitAt mark text) = text := by
  induction text with
  | nil => rfl
  | cons c rest ih =>
    rw [splitAt]
    split
    · next hc => rw [joinWith_cons mark [] (splitAt_ne_nil mark rest), ih, hc, List.nil_append]
    · split
      · next hs => exact absurd hs (splitAt_ne_nil mark rest)
      · next piece pieces hs =>
        rw [hs] at ih
        cases pieces with
        | nil =>
          have hp : piece = rest := ih
          simp [joinWith, hp]
        | cons next pieces =>
          rw [joinWith_cons mark _ (List.cons_ne_nil _ _)] at ih ⊢
          rw [List.cons_append, ih]

/-- A place in a text. -/
structure Position where
  line : Nat
  column : Nat
  deriving DecidableEq, Repr

/-- The place of the character at `offset`. -/
def Position.ofOffset (text : List Char) (offset : Nat) : Position :=
  let before := text.take offset
  ⟨before.count '\n' + 1, (before.reverse.takeWhile (· ≠ '\n')).length + 1⟩

end CommitRules.Text
