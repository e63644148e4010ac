import CommitRules.Proofs.GlobClasses
import Mathlib.Data.List.Infix

/-!
# CommitRules.Proofs.GlobDirectories

How globs cross directories. A double star stands for any text without line feeds, and nothing else
is meant to stand for a slash; a class that is not negated does, if a slash is in its set.

* `takes_folders_iff`, `takes_text_iff`: what a double star in front of a glob or behind a text
  takes in.
* `double_star_spans_iff`: where it takes in all that is expected of it.
* `count_slash_of_spells`, `exists_most_slashes`: how many slashes a path can have.
* `slashes_taken_iff`: the globs without double stars whose paths all have the slashes of the glob.
-/

namespace CommitRules.Glob

/-! ## Double stars -/

/-- A text in which no character means anything in a glob. -/
structure Literal (text : String) : Prop where
  plain : ∀ c ∈ text.toList, c ∉ ['*', '?', '[', '{']
  positive : text.toList.head? ≠ some '!'

section DoubleStars

variable {glob literal path : String}

theorem pieces_folders (glob : String) :
    pieces ("**/" ++ glob).toList = .folders :: pieces glob.toList := by
  rw [String.toList_append]
  exact pieces_of_starts .folders

/-- Characters without a meaning of their own stand for themselves. -/
theorem pieces_literal {literal : List Char} (h : ∀ c ∈ literal, c ∉ ['*', '?', '[', '{'])
    (rest : List Char) : pieces (literal ++ rest) = literal.map .char ++ pieces rest := by
  induction literal with
  | nil => rfl
  | cons c literal ih =>
    obtain ⟨hc, hliteral⟩ := List.forall_mem_cons.1 h
    have hplain : c ≠ '*' ∧ c ≠ '?' ∧ c ≠ '[' := by
      simp only [List.mem_cons, not_or] at hc
      exact ⟨hc.1, hc.2.1, hc.2.2.1⟩
    rw [List.cons_append, pieces_of_starts (.char hplain), ih hliteral]
    rfl

theorem spells_literal {literal path : List Char} {more : List Piece} :
    Spells (literal.map .char ++ more) path ↔
      ∃ rest, path = literal ++ rest ∧ Spells more rest := by
  induction literal generalizing path with
  | nil => simp
  | cons c literal ih =>
    rw [List.map_cons, List.cons_append, spells_cons]
    constructor
    · rintro ⟨text, rest, rfl, rfl, hrest⟩
      obtain ⟨rest, rfl, hmore⟩ := ih.1 hrest
      exact ⟨rest, rfl, hmore⟩
    · rintro ⟨rest, rfl, hmore⟩
      exact ⟨[c], literal ++ rest, rfl, rfl, ih.2 ⟨rest, rfl, hmore⟩⟩

/-- A double star with a slash stands for nothing, or for directories without a line feed. -/
theorem spells_folders {more : List Piece} {path : List Char} :
    Spells (.folders :: more) path ↔
      Spells more path ∨
        ∃ folders rest, path = folders ++ '/' :: rest ∧ '\n' ∉ folders ∧ Spells more rest := by
  rw [spells_cons]
  constructor
  · rintro ⟨text, rest, rfl, rfl | ⟨folders, hfolders, rfl⟩, hrest⟩
    · exact .inl hrest
    · exact .inr ⟨folders, rest, by simp, hfolders, hrest⟩
  · rintro (h | ⟨folders, rest, rfl, hfolders, hrest⟩)
    · exact ⟨[], path, rfl, .inl rfl, h⟩
    · exact ⟨folders ++ ['/'], rest, by simp, .inr ⟨folders, hfolders, rfl⟩, hrest⟩

theorem plain_folders (h : Plain glob) : Plain ("**/" ++ glob) := by
  refine ⟨by simpa using h.whole, by simp, returns_compile_iff.2 ?_⟩
  rw [pieces_folders, List.all_cons, returns_compile_iff.1 h.compiled]
  rfl

theorem pieces_text (h : Literal literal) :
    pieces (literal ++ "**").toList = literal.toList.map .char ++ [.text] := by
  rw [String.toList_append]
  exact pieces_literal h.plain ['*', '*']

theorem plain_text (h : Literal literal) : Plain (literal ++ "**") := by
  refine ⟨?_, ?_, returns_compile_iff.2 ?_⟩
  · rw [String.toList_append, List.mem_append, not_or]
    exact ⟨fun hbrace => h.plain _ hbrace (by simp), by decide⟩
  · have hmark := h.positive
    cases hliteral : literal.toList with
    | nil => simp [hliteral]
    | cons c rest => simpa [hliteral] using hmark
  · rw [pieces_text h, List.all_append, List.all_map]
    simp [Piece.inOrder, Function.comp_def]

/-- A double star in front of a glob stands for nothing, or for directories without a line feed. -/
theorem takes_folders_iff (h : Plain glob) :
    takes ["**/" ++ glob] path = .ok true ↔
      takes [glob] path = .ok true ∨
        ∃ folders rest : String, path = folders ++ "/" ++ rest ∧ '\n' ∉ folders.toList ∧
          takes [glob] rest = .ok true := by
  rw [(plain_folders h).takes_iff, pieces_folders, spells_folders, h.takes_iff]
  refine or_congr_right ⟨?_, ?_⟩
  · rintro ⟨folders, rest, hpath, hfolders, hrest⟩
    refine ⟨.ofList folders, .ofList rest, String.toList_injective ?_, ?_, h.takes_iff.2 ?_⟩
    · simpa using hpath
    · simpa using hfolders
    · simpa using hrest
  · rintro ⟨folders, rest, rfl, hfolders, hrest⟩
    exact ⟨folders.toList, rest.toList, by simp, hfolders, h.takes_iff.1 hrest⟩

/-- A double star behind a text stands for the rest of a path, if there is no line feed in it. -/
theorem takes_text_iff (h : Literal literal) :
    takes [literal ++ "**"] path = .ok true ↔
      ∃ rest : String, path = literal ++ rest ∧ '\n' ∉ rest.toList := by
  rw [(plain_text h).takes_iff, pieces_text h, spells_literal]
  constructor
  · rintro ⟨rest, hpath, hrest⟩
    have hline : '\n' ∉ rest := spells_single.1 hrest
    refine ⟨.ofList rest, String.toList_injective ?_, ?_⟩
    · simpa using hpath
    · simpa using hline
  · rintro ⟨rest, rfl, hrest⟩
    exact ⟨rest.toList, by simp, spells_single.2 hrest⟩

/-- What is to be expected of a double star in front of a glob: it stands for any directories, or
for none. -/
def SpansFolders (glob path : String) : Prop :=
  takes ["**/" ++ glob] path = .ok true ↔
    takes [glob] path = .ok true ∨
      ∃ folders rest : String, path = folders ++ "/" ++ rest ∧ takes [glob] rest = .ok true

/-- What is to be expected of a double star behind a text: it stands for anything. -/
def SpansRest (literal path : String) : Prop :=
  takes [literal ++ "**"] path = .ok true ↔ literal.toList <+: path.toList

/-- Both can be relied on where no line feed gets in the way: the glob itself takes the path in, or
there are directories without a line feed in front of what it takes in, if there are any at all; and
there is no line feed behind the text. -/
theorem double_star_spans_iff (glob literal path : String) (hglob : Plain glob)
    (hliteral : Literal literal) :
    Returns (takes ["**/" ++ glob] path) ∧ Returns (takes [literal ++ "**"] path) ∧
    (SpansFolders glob path ↔
      ((∃ folders rest : String, path = folders ++ "/" ++ rest ∧ takes [glob] rest = .ok true) →
        takes [glob] path = .ok true ∨
          ∃ folders rest : String, path = folders ++ "/" ++ rest ∧ '\n' ∉ folders.toList ∧
            takes [glob] rest = .ok true)) ∧
    (SpansRest literal path ↔ ∀ rest, path = literal ++ rest → '\n' ∉ rest.toList) := by
  obtain ⟨found, hfound, -⟩ := (plain_folders hglob).exists_taken path
  obtain ⟨taken, htaken, -⟩ := (plain_text hliteral).exists_taken path
  refine ⟨⟨found, hfound⟩, ⟨taken, htaken⟩, ?_, ?_⟩
  · rw [SpansFolders, takes_folders_iff hglob]
    constructor
    · intro hspans hfolders
      exact hspans.2 (.inr hfolders)
    · intro hfolders
      constructor
      · rintro (hself | ⟨folders, rest, hpath, -, hrest⟩)
        · exact .inl hself
        · exact .inr ⟨folders, rest, hpath, hrest⟩
      · rintro (hself | hany)
        · exact .inl hself
        · exact hfolders hany
  · rw [SpansRest, takes_text_iff hliteral]
    constructor
    · rintro hspans rest rfl
      obtain ⟨other, hother, hline⟩ := hspans.2 (by simp)
      have hsame : literal.toList ++ rest.toList = literal.toList ++ other.toList := by
        simpa using congrArg String.toList hother
      rwa [List.append_cancel_left hsame]
    · intro hline
      constructor
      · rintro ⟨rest, rfl, -⟩
        simp
      · rintro ⟨rest, hpath⟩
        have hrest : path = literal ++ String.ofList rest :=
          String.toList_injective (by simpa using hpath.symm)
        exact ⟨_, hrest, hline _ hrest⟩

end DoubleStars

theorem plain_script : Plain "*.ts" := ⟨by decide, by decide, _, rfl⟩

/-- A line feed in the name of a file does not matter, and neither does one in the text. -/
theorem double_star_spans_name :
    Plain "*.ts" ∧ Literal "src/a\n" ∧ SpansFolders "*.ts" "src/a\n.ts" ∧
    SpansRest "src/a\n" "src/a\n.ts" := by
  have hliteral : Literal "src/a\n" := by
    constructor
    · rw [show "src/a\n".toList = ['s', 'r', 'c', '/', 'a', '\n'] from rfl]
      simp
    · decide
  obtain ⟨-, -, hfolders, hrest⟩ :=
    double_star_spans_iff "*.ts" "src/a\n" "src/a\n.ts" plain_script hliteral
  refine ⟨plain_script, hliteral, hfolders.2 fun _ => .inr ?_, hrest.2 fun rest h => ?_⟩
  · exact ⟨"src", "a\n.ts", rfl, by decide, rfl⟩
  · have hsame : "src/a\n".toList ++ ".ts".toList = "src/a\n".toList ++ rest.toList := by
      simpa using congrArg String.toList h
    rw [← List.append_cancel_left hsame]
    decide

/-- A line feed in the name of a directory hides the files in it, and one behind a text hides what
begins with the text. -/
theorem line_feed_not_spanned :
    (Plain "*.ts" ∧ takes ["**/*.ts"] "a\nb/x.ts" = .ok false ∧ takes ["*.ts"] "x.ts" = .ok true ∧
      ¬ SpansFolders "*.ts" "a\nb/x.ts") ∧
    (takes ["src/**"] "src/a\nb" = .ok false ∧ ¬ SpansRest "src/" "src/a\nb") := by
  have hfolders : takes ["**/*.ts"] "a\nb/x.ts" = .ok false := rfl
  have hrest : takes ["src/**"] "src/a\nb" = .ok false := rfl
  refine ⟨⟨plain_script, hfolders, rfl, fun hspans => ?_⟩, hrest, fun hspans => ?_⟩
  · have htaken := hspans.2 (.inr ⟨"a\nb", "x.ts", rfl, rfl⟩)
    cases hfolders.symm.trans htaken
  · have htaken := hspans.2 ⟨"a\nb".toList, rfl⟩
    cases hrest.symm.trans htaken

/-! ## Slashes -/

/-- Whether a piece is a class, not negated, with a slash in its set. -/
def Piece.holdsSlash : Piece → Bool
  | .oneOf false set => inSet '/' set
  | _ => false

/-- How many slashes a glob has outside of its brackets. -/
def slashesOutside (glob : List Char) : Nat := (pieces glob).count (.char '/')

/-- How many classes of a glob hold a slash. -/
def slashClasses (glob : List Char) : Nat := (pieces glob).countP Piece.holdsSlash

section Slashes

variable {glob rest text path : List Char} {piece : Piece} {tokens : List Piece}

theorem suffix_of_starts (h : Starts glob piece rest) : rest <:+ glob := by
  cases h with
  | folders => exact ⟨['*', '*', '/'], rfl⟩
  | text => exact ⟨['*', '*'], rfl⟩
  | name => exact ⟨['*'], rfl⟩
  | one => exact ⟨['?'], rfl⟩
  | @oneOf first body => exact ⟨'[' :: first :: (body ++ [']']), by simp⟩
  | @noneOf mark body => exact ⟨'[' :: mark :: (body ++ [']']), by simp⟩
  | unclosed => exact ⟨['['], rfl⟩
  | @char c => exact ⟨[c], rfl⟩

/-- A piece that stands for directories is written with two stars. -/
theorem stars_of_tokens (h : Tokens glob tokens) (hpiece : .folders ∈ tokens ∨ .text ∈ tokens) :
    ['*', '*'] <:+: glob := by
  induction h with
  | nil => simp at hpiece
  | @cons glob rest piece pieces hfirst _ ih =>
    simp only [List.mem_cons] at hpiece
    by_cases hrest : .folders ∈ pieces ∨ .text ∈ pieces
    · exact (ih hrest).trans (suffix_of_starts hfirst).isInfix
    · have hhere : .folders = piece ∨ .text = piece := by tauto
      obtain rfl | rfl := hhere
      · cases hfirst
        exact ⟨[], _, rfl⟩
      · cases hfirst
        exact ⟨[], _, rfl⟩

/-- A piece that can be compiled and is not a double star. -/
structure Piece.Inside (piece : Piece) : Prop where
  folders : piece ≠ .folders
  text : piece ≠ .text
  ordered : piece.inOrder = true

theorem inside_of_mem {glob : String} (hglob : Plain glob)
    (hstars : ¬ ['*', '*'] <:+: glob.toList) : ∀ piece ∈ pieces glob.toList, piece.Inside := by
  intro piece hpiece
  have hordered := List.all_eq_true.1 (returns_compile_iff.1 hglob.compiled) piece hpiece
  have htokens := tokens_iff.2 (rfl : pieces glob.toList = pieces glob.toList)
  constructor
  · rintro rfl
    exact hstars (stars_of_tokens htokens (.inl hpiece))
  · rintro rfl
    exact hstars (stars_of_tokens htokens (.inr hpiece))
  · exact hordered

/-- A piece that is no slash takes one in only if it is a class that holds a slash. -/
theorem slash_not_mem (hinside : piece.Inside) (hchar : piece ≠ .char '/')
    (hholds : piece.holdsSlash = false) (h : piece.Spells text) : '/' ∉ text := by
  cases piece with
  | folders => exact (hinside.folders rfl).elim
  | text => exact (hinside.text rfl).elim
  | name => exact h
  | one =>
    obtain ⟨c, rfl, hc⟩ := h
    simpa using hc.symm
  | oneOf negated set =>
    cases negated with
    | true =>
      obtain ⟨c, rfl, hc⟩ := h
      have hslash : inSet '/' ('/' :: set) = true := slash_inSet hinside.ordered
      intro hmem
      rw [← List.mem_singleton.1 hmem, hslash] at hc
      cases hc
    | false =>
      obtain ⟨c, rfl, hc⟩ := h
      have hslash : inSet '/' set = false := hholds
      intro hmem
      rw [← List.mem_singleton.1 hmem, hslash] at hc
      cases hc
  | char c =>
    have htext : text = [c] := h
    rw [htext, List.mem_singleton]
    rintro rfl
    exact hchar rfl

/-- A piece takes its own slash in, and a further one at most if it is a class that holds one. -/
theorem count_slash_of_piece (hinside : piece.Inside) (h : piece.Spells text) :
    [piece].count (.char '/') ≤ text.count '/' ∧
      text.count '/' ≤ [piece].count (.char '/') + [piece].countP Piece.holdsSlash := by
  by_cases hchar : piece = .char '/'
  · subst hchar
    have htext : text = ['/'] := h
    rw [htext]
    decide
  have hnone : [piece].count (.char '/') = 0 :=
    List.count_eq_zero.2 fun hmem => hchar (List.mem_singleton.1 hmem).symm
  cases hholds : piece.holdsSlash with
  | false =>
    have hcount := List.count_eq_zero.2 (slash_not_mem hinside hchar hholds h)
    omega
  | true =>
    have hone : [piece].countP Piece.holdsSlash = 1 := by simp [hholds]
    have hlength : text.length = 1 := by
      match piece, hholds with
      | .oneOf false set, _ =>
        obtain ⟨c, rfl, -⟩ := h
        rfl
    have hle := List.count_le_length (a := '/') (l := text)
    omega

/-- A path has the slashes of the pieces it is a text for, and at most one more for each class that
holds a slash. -/
theorem count_slash_of_spells (hinside : ∀ piece ∈ tokens, piece.Inside) (h : Spells tokens path) :
    tokens.count (.char '/') ≤ path.count '/' ∧
      path.count '/' ≤ tokens.count (.char '/') + tokens.countP Piece.holdsSlash := by
  induction tokens generalizing path with
  | nil =>
    rw [spells_nil.1 h]
    exact ⟨Nat.le_refl _, Nat.le_refl _⟩
  | cons piece tokens ih =>
    obtain ⟨hpiece, htokens⟩ := List.forall_mem_cons.1 hinside
    obtain ⟨text, rest, rfl, htext, hrest⟩ := spells_cons.1 h
    have hfirst := count_slash_of_piece hpiece htext
    have hmore := ih htokens hrest
    rw [List.count_append, ← List.singleton_append, List.count_append, List.countP_append]
    omega

/-- Where there is a path at all, there is one with a slash for every class that holds one. -/
theorem exists_most_slashes (hinside : ∀ piece ∈ tokens, piece.Inside) (h : Spells tokens path) :
    ∃ other, Spells tokens other ∧
      other.count '/' = tokens.count (.char '/') + tokens.countP Piece.holdsSlash := by
  induction tokens generalizing path with
  | nil => exact ⟨[], spells_nil.2 rfl, rfl⟩
  | cons piece tokens ih =>
    obtain ⟨hpiece, htokens⟩ := List.forall_mem_cons.1 hinside
    obtain ⟨text, rest, rfl, htext, hrest⟩ := spells_cons.1 h
    obtain ⟨other, hother, hcount⟩ := ih htokens hrest
    rw [← List.singleton_append, List.count_append, List.countP_append]
    cases hholds : piece.holdsSlash with
    | false =>
      have hnone : [piece].countP Piece.holdsSlash = 0 := by simp [hholds]
      have hfirst := count_slash_of_piece hpiece htext
      refine ⟨text ++ other, spells_cons.2 ⟨text, other, rfl, htext, hother⟩, ?_⟩
      rw [List.count_append]
      omega
    | true =>
      match piece, hholds with
      | .oneOf false set, hslash =>
        refine ⟨'/' :: other, spells_cons.2 ⟨['/'], other, rfl, ⟨'/', rfl, hslash⟩, hother⟩, ?_⟩
        have hone : [Piece.oneOf false set].countP Piece.holdsSlash = 1 := by simp [hslash]
        have hnone : [Piece.oneOf false set].count (.char '/') = 0 := rfl
        rw [List.count_cons_self]
        omega

end Slashes

/-- A glob without double stars takes in paths with the slashes that it has outside of its brackets,
and with one more at most for each class that holds a slash. So these are exactly its own slashes if
and only if no class holds one or there is no path at all. No other piece takes a slash in. -/
theorem slashes_taken_iff (glob : String) (hglob : Plain glob)
    (hstars : ¬ ['*', '*'] <:+: glob.toList) :
    (∀ path, takes [glob] path = .ok true →
      slashesOutside glob.toList ≤ path.toList.count '/' ∧
        path.toList.count '/' ≤ slashesOutside glob.toList + slashClasses glob.toList) ∧
    ((∀ path, takes [glob] path = .ok true →
        path.toList.count '/' = slashesOutside glob.toList) ↔
      slashClasses glob.toList = 0 ∨ ∀ path, takes [glob] path = .ok false) ∧
    (∀ piece ∈ pieces glob.toList, piece ≠ .char '/' → piece.holdsSlash = false →
      ∀ text, piece.Spells text → '/' ∉ text) := by
  have hinside := inside_of_mem hglob hstars
  have hbounds : ∀ path, takes [glob] path = .ok true →
      slashesOutside glob.toList ≤ path.toList.count '/' ∧
        path.toList.count '/' ≤ slashesOutside glob.toList + slashClasses glob.toList :=
    fun path htakes => count_slash_of_spells hinside (hglob.takes_iff.1 htakes)
  refine ⟨hbounds, ⟨fun hexact => ?_, ?_⟩, fun piece hpiece hchar hholds text =>
    slash_not_mem (hinside piece hpiece) hchar hholds⟩
  · by_cases hsome : ∃ path, takes [glob] path = .ok true
    · obtain ⟨path, htakes⟩ := hsome
      obtain ⟨other, hother, hcount⟩ := exists_most_slashes hinside (hglob.takes_iff.1 htakes)
      have hmost := hexact (.ofList other) (hglob.takes_iff.2 (by simpa using hother))
      rw [String.toList_ofList, hcount] at hmost
      have hclasses : slashesOutside glob.toList + slashClasses glob.toList =
        slashesOutside glob.toList := hmost
      exact .inl (by omega)
    · refine .inr fun path => hglob.takes_false_iff.2 fun h => hsome ⟨path, hglob.takes_iff.2 h⟩
  · rintro (hclasses | hnone) path htakes
    · have hcount := hbounds path htakes
      omega
    · rw [hnone path] at htakes
      cases htakes

/-- Wildcards and classes of both kinds, none of which holds a slash. -/
theorem slashes_taken_tests :
    Plain "src/[!a-c]?/*.t[sx]" ∧ ¬ ['*', '*'] <:+: "src/[!a-c]?/*.t[sx]".toList ∧
    takes ["src/[!a-c]?/*.t[sx]"] "src/-x/main.ts" = .ok true ∧
    "src/-x/main.ts".toList.count '/' = slashesOutside "src/[!a-c]?/*.t[sx]".toList := by
  have hplain : Plain "src/[!a-c]?/*.t[sx]" := ⟨by decide, by decide, _, rfl⟩
  have hstars : ¬ ['*', '*'] <:+: "src/[!a-c]?/*.t[sx]".toList := by decide
  have htakes : takes ["src/[!a-c]?/*.t[sx]"] "src/-x/main.ts" = .ok true := rfl
  have hexact := (slashes_taken_iff "src/[!a-c]?/*.t[sx]" hplain hstars).2.1.2 (.inl rfl)
  exact ⟨hplain, hstars, htakes, hexact "src/-x/main.ts" htakes⟩

/-- A range in which the slash lies, and a class that lists it. -/
theorem class_crosses_directories :
    (Plain "a[+-9]b" ∧ ¬ ['*', '*'] <:+: "a[+-9]b".toList ∧ takes ["a[+-9]b"] "a/b" = .ok true ∧
      "a/b".toList.count '/' ≠ slashesOutside "a[+-9]b".toList) ∧
    (Plain "a[/]b" ∧ ¬ ['*', '*'] <:+: "a[/]b".toList ∧ takes ["a[/]b"] "a/b" = .ok true ∧
      "a/b".toList.count '/' ≠ slashesOutside "a[/]b".toList) := by
  refine ⟨⟨⟨by decide, by decide, _, rfl⟩, by decide, rfl, ?_⟩,
    ⟨⟨by decide, by decide, _, rfl⟩, by decide, rfl, ?_⟩⟩
  · decide
  · decide

end CommitRules.Glob
