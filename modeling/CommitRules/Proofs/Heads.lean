import CommitRules.Proofs.Encoding
import CommitRules.Proofs.Returning

/-!
# CommitRules.Proofs.Heads

Where the head of a file ends. Its lines are cut apart at line feeds, counted off and joined again,
which comes to one cut in the text, at the last line feed counted.

* `unifyNewlines_eq`, `filter_unifyNewlines`: every line end becomes a line feed, and nothing else
  changes.
* `isHeadOf_firstLines`: the first lines are the text in front of that line feed.
* `firstLines_prefix`: fewer lines are a beginning of more lines.
* `readHead_cuts`: the head of a file that is there.
-/

namespace CommitRules

open CommitRules.Text CommitRules.Files

namespace Text

/-! ## Line ends -/

theorem unifyReturnPairs_cons {c : Char} {rest : List Char}
    (h : ∀ behind, c = '\r' → rest ≠ '\n' :: behind) :
    unifyReturnPairs (c :: rest) = c :: unifyReturnPairs rest := by
  rw [unifyReturnPairs]
  exact h

theorem unifyNewlines_eq (text : List Char) :
    unifyNewlines text = (unifyReturnPairs text).map fun c => if c = '\r' then '\n' else c := by
  fun_induction unifyNewlines text with
  | case1 => rfl
  | case2 rest ih => simp [unifyReturnPairs, ih]
  | case3 rest h ih =>
    rw [unifyReturnPairs_cons fun behind _ => h behind, List.map_cons, if_pos rfl, ih]
  | case4 c rest h hc ih => rw [unifyReturnPairs_cons h, List.map_cons, if_neg hc, ih]

theorem filter_unifyNewlines (text : List Char) :
    (unifyNewlines text).filter (· ≠ '\n') = text.filter fun c => c ≠ '\r' ∧ c ≠ '\n' := by
  fun_induction unifyNewlines text with
  | case1 => rfl
  | case2 rest ih => simpa using ih
  | case3 rest h ih => simpa using ih
  | case4 c rest h hc ih =>
    have hother : (c ≠ '\r' ∧ c ≠ '\n') ↔ c ≠ '\n' := and_iff_right hc
    simp only [List.filter_cons, hother, ih]

/-! ## Lines -/

section Lines

variable {line : List Char}

theorem lines_append (h : '\n' ∉ line) (rest : List Char) :
    lines (line ++ '\n' :: rest) = line :: lines rest := by
  have hrest : splitAt '\n' rest ≠ [] := splitAt_ne_nil '\n' rest
  have hlast : (line :: splitAt '\n' rest).getLast? = (splitAt '\n' rest).getLast? := by
    rw [List.getLast?_cons_of_ne_nil hrest]
  simp only [lines, splitAt_append h, hlast, List.dropLast_cons_of_ne_nil hrest]
  split <;> rfl

theorem lines_nil : lines [] = [] := rfl

theorem lines_of_not_mem (h : '\n' ∉ line) (hline : line ≠ []) : lines line = [line] := by
  simp [lines, splitAt_of_not_mem h, hline]

theorem lines_ne_nil {text : List Char} (h : text ≠ []) : lines text ≠ [] := by
  by_cases hfeed : '\n' ∈ text
  · obtain ⟨line, rest, rfl, hline⟩ := List.eq_append_cons_of_mem hfeed
    rw [lines_append hline]
    exact List.cons_ne_nil _ _
  · rw [lines_of_not_mem hfeed h]
    exact List.cons_ne_nil _ _

theorem joinWith_prefix {mark : Char} {pieces more : List (List Char)} (h : pieces <+: more) :
    joinWith mark pieces <+: joinWith mark more := by
  induction pieces generalizing more with
  | nil => exact List.nil_prefix
  | cons piece pieces ih =>
    obtain ⟨rest, rfl⟩ := h
    rw [List.cons_append]
    by_cases hpieces : pieces = []
    · rw [hpieces]
      by_cases hrest : rest = []
      · rw [hrest]
        exact List.prefix_rfl
      · rw [List.nil_append, joinWith_cons mark piece hrest]
        exact List.prefix_append _ _
    · rw [joinWith_cons mark piece hpieces,
        joinWith_cons mark piece (List.append_ne_nil_of_left_ne_nil hpieces rest)]
      exact (List.prefix_append_right_inj _).2
        (List.cons_prefix_cons.2 ⟨rfl, ih (List.prefix_append _ _)⟩)

end Lines

end Text

/-! ## Heads -/

namespace Files

/-- What stands in front of the `count`th line feed of a text; if there are fewer of them, the text
without a final one. -/
structure IsHeadOf (count : Nat) (text head : List Char) : Prop where
  cut : count ≤ text.count '\n' → ∃ rest, text = head ++ '\n' :: rest ∧ head.count '\n' + 1 = count
  all : text.count '\n' < count → text = head ++ ['\n'] ∨ text = head ∧ head.getLast? ≠ some '\n'

section FirstLines

variable {count : Nat} {text line rest : List Char}

theorem firstLines_of_not_mem (h : '\n' ∉ line) : firstLines (count + 1) line = line := by
  by_cases hline : line = []
  · rw [hline]
    rfl
  · rw [firstLines, lines_of_not_mem h hline, List.take_succ_cons, List.take_nil]
    rfl

theorem firstLines_one (h : '\n' ∉ line) (rest : List Char) :
    firstLines 1 (line ++ '\n' :: rest) = line := by
  rw [firstLines, lines_append h]
  rfl

theorem firstLines_final (h : '\n' ∉ line) (count : Nat) :
    firstLines (count + 1) (line ++ ['\n']) = line := by
  rw [firstLines, lines_append h, lines_nil, List.take_succ_cons, List.take_nil]
  rfl

theorem firstLines_append (h : '\n' ∉ line) (count : Nat) (hrest : rest ≠ []) :
    firstLines (count + 2) (line ++ '\n' :: rest) =
      line ++ '\n' :: firstLines (count + 1) rest := by
  have hlines : (lines rest).take (count + 1) ≠ [] := by
    simpa using lines_ne_nil hrest
  rw [firstLines, lines_append h, List.take_succ_cons, joinWith_cons '\n' line hlines]
  rfl

theorem count_feed (h : '\n' ∉ line) (rest : List Char) :
    (line ++ '\n' :: rest).count '\n' = rest.count '\n' + 1 := by
  rw [List.count_append, List.count_eq_zero_of_not_mem h, List.count_cons_self, Nat.zero_add]

/-- A line in front of a text goes in front of its head. -/
theorem IsHeadOf.cons {head : List Char} (hline : '\n' ∉ line) (hrest : rest ≠ [])
    (h : IsHeadOf count rest head) :
    IsHeadOf (count + 1) (line ++ '\n' :: rest) (line ++ '\n' :: head) := by
  constructor
  · intro hcount
    rw [count_feed hline] at hcount
    obtain ⟨behind, hcut, hhead⟩ := h.cut (by omega)
    refine ⟨behind, by rw [hcut]; simp, ?_⟩
    rw [count_feed hline, hhead]
  · intro hcount
    rw [count_feed hline] at hcount
    obtain hfinal | ⟨hall, hlast⟩ := h.all (by omega)
    · exact .inl (by rw [hfinal]; simp)
    · refine .inr ⟨by rw [hall], ?_⟩
      rw [List.getLast?_append_cons, List.getLast?_cons_of_ne_nil (hall ▸ hrest)]
      exact hlast

theorem isHeadOf_of_not_mem (h : '\n' ∉ line) : IsHeadOf (count + 1) line line := by
  constructor
  · intro hcount
    rw [List.count_eq_zero_of_not_mem h] at hcount
    omega
  · intro _
    exact .inr ⟨rfl, fun hlast => h (List.mem_of_getLast? hlast)⟩

theorem isHeadOf_one (h : '\n' ∉ line) (rest : List Char) :
    IsHeadOf 1 (line ++ '\n' :: rest) line := by
  constructor
  · intro _
    exact ⟨rest, rfl, by rw [List.count_eq_zero_of_not_mem h]⟩
  · intro hcount
    rw [count_feed h] at hcount
    omega

/-- A line feed that ends the text is none to cut at, unless it is the one asked for. -/
theorem isHeadOf_final (h : '\n' ∉ line) (count : Nat) :
    IsHeadOf (count + 2) (line ++ ['\n']) line := by
  constructor
  · intro hcount
    rw [count_feed h, List.count_nil] at hcount
    omega
  · intro _
    exact .inl rfl

theorem isHeadOf_firstLines (count : Nat) (text : List Char) :
    IsHeadOf (count + 1) text (firstLines (count + 1) text) := by
  induction count generalizing text with
  | zero =>
    by_cases hfeed : '\n' ∈ text
    · obtain ⟨line, rest, rfl, hline⟩ := List.eq_append_cons_of_mem hfeed
      rw [firstLines_one hline]
      exact isHeadOf_one hline rest
    · rw [firstLines_of_not_mem hfeed]
      exact isHeadOf_of_not_mem hfeed
  | succ count ih =>
    by_cases hfeed : '\n' ∈ text
    · obtain ⟨line, rest, rfl, hline⟩ := List.eq_append_cons_of_mem hfeed
      by_cases hrest : rest = []
      · rw [hrest, firstLines_final hline]
        exact isHeadOf_final hline count
      · rw [firstLines_append hline count hrest]
        exact (ih rest).cons hline hrest
    · rw [firstLines_of_not_mem hfeed]
      exact isHeadOf_of_not_mem hfeed

theorem firstLines_prefix {fewer : Nat} (h : fewer ≤ count) (text : List Char) :
    firstLines fewer text <+: firstLines count text :=
  joinWith_prefix (List.take_prefix_take_left h)

end FirstLines

end Files

/-- The head of a file that is there is its text up to the last of the line feeds asked for. The
text is what the bytes are read as, with every line end made a line feed and nothing else changed,
and it stands whole if it has fewer line feeds, but for a final one. Fewer lines are a beginning of
that. -/
theorem readHead_cuts {tree : Tree} {file : String} {bytes : List UInt8} {count : Nat}
    (hread : tree.read (.ofText file) = .ok bytes) (hcount : 1 ≤ count)
    (hlimit : (count : Int) ≤ headLimit) :
    ∃ decoded text head,
      (∀ chars, Utf8.Decodes bytes chars ↔ chars = decoded) ∧
      text = (unifyReturnPairs decoded).map (fun c => if c = '\r' then '\n' else c) ∧
      text.filter (· ≠ '\n') = decoded.filter (fun c => c ≠ '\r' ∧ c ≠ '\n') ∧
      readHead tree file count = .ok head ∧ IsHeadOf count text head ∧
      ∀ fewer ≤ count, ∃ shorter, readHead tree file fewer = .ok shorter ∧ shorter <+: head := by
  have hreadHead : ∀ fewer ≤ count,
      readHead tree file fewer = .ok (firstLines fewer (textOf bytes)) := fun fewer hfewer => by
    rw [readHead_of_read hread, if_neg (by omega)]
  obtain ⟨count, rfl⟩ := Nat.exists_eq_add_of_le' hcount
  refine ⟨Utf8.decodeLossy bytes, textOf bytes, firstLines (count + 1) (textOf bytes),
    fun _ => Utf8.decodes_iff, unifyNewlines_eq _, filter_unifyNewlines _,
    hreadHead _ (Nat.le_refl _), isHeadOf_firstLines count _, ?_⟩
  intro fewer hfewer
  exact ⟨_, hreadHead fewer hfewer, firstLines_prefix hfewer _⟩

/-- A file with all kinds of line ends, a blank line, a form feed and a byte that is not text. -/
def mixedBytes : List UInt8 :=
  [0x61, 0x0D, 0x0A, 0x62, 0x0D, 0x63, 0x0C, 0x0A, 0x0A, 0xFF, 0x64]

def mixedTree : Tree := ⟨[(["r"], .directory), (["r", "a.ts"], .file mixedBytes)], []⟩

theorem readHead_cuts_mixed :
    mixedTree.read (.ofText "/r/a.ts") = .ok mixedBytes ∧
    readHead mixedTree "/r/a.ts" 4 = .ok "a\nb\nc\x0c\n".toList ∧
    ∃ decoded text head,
      (∀ chars, Utf8.Decodes mixedBytes chars ↔ chars = decoded) ∧
      text = (unifyReturnPairs decoded).map (fun c => if c = '\r' then '\n' else c) ∧
      text.filter (· ≠ '\n') = decoded.filter (fun c => c ≠ '\r' ∧ c ≠ '\n') ∧
      readHead mixedTree "/r/a.ts" (4 : Nat) = .ok head ∧ IsHeadOf 4 text head ∧
      ∀ fewer ≤ (4 : Nat), ∃ shorter, readHead mixedTree "/r/a.ts" fewer = .ok shorter ∧
        shorter <+: head :=
  have hread : mixedTree.read (.ofText "/r/a.ts") = .ok mixedBytes :=
    ok_of_toOption (by decide +kernel)
  ⟨hread, ok_of_toOption (by decide +kernel), @readHead_cuts _ _ _ 4 hread (by decide) (by decide)⟩

end CommitRules
