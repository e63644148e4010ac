import CommitRules.Glob.Piece
import Mathlib.Data.List.Basic

/-!
# CommitRules.Proofs.GlobTokens

How a glob falls into pieces, said without the reader: from left to right, at every place the
longest form that stands there.

* `tokens_iff`: the pieces that are read are these pieces, for every glob.
* `sound_pieces`: what brackets enclose is never empty and holds no closing bracket behind its
  first character.
-/

namespace CommitRules.Glob

/-- What stands first in a glob, and what is left behind it. -/
inductive Starts : List Char → Piece → List Char → Prop where
  | folders {rest : List Char} : Starts ('*' :: '*' :: '/' :: rest) .folders rest
  | text {rest : List Char} (hslash : rest.head? ≠ some '/') :
      Starts ('*' :: '*' :: rest) .text rest
  | name {rest : List Char} (hstar : rest.head? ≠ some '*') : Starts ('*' :: rest) .name rest
  | one {rest : List Char} : Starts ('?' :: rest) .one rest
  | oneOf {first : Char} {body rest : List Char} (hfirst : first ≠ '!' ∧ first ≠ '^')
      (hbody : ']' ∉ body) :
      Starts ('[' :: first :: (body ++ ']' :: rest)) (.oneOf false (first :: body)) rest
  | noneOf {mark : Char} {body rest : List Char} (hmark : mark = '!' ∨ mark = '^')
      (hbody : ']' ∉ body) :
      Starts ('[' :: mark :: (body ++ ']' :: rest)) (.oneOf true body) rest
  /-- A bracket that is not closed, except perhaps by the very next character. -/
  | unclosed {rest : List Char} (hopen : ']' ∉ rest.drop 1) : Starts ('[' :: rest) (.char '[') rest
  | char {c : Char} {rest : List Char} (hc : c ≠ '*' ∧ c ≠ '?' ∧ c ≠ '[') :
      Starts (c :: rest) (.char c) rest

/-- The pieces of a glob, from left to right. -/
inductive Tokens : List Char → List Piece → Prop where
  | nil : Tokens [] []
  | cons {glob rest : List Char} {piece : Piece} {pieces : List Piece}
      (hfirst : Starts glob piece rest) (hrest : Tokens rest pieces) : Tokens glob (piece :: pieces)

variable {glob rest body : List Char} {piece : Piece}

theorem Starts.length_lt (h : Starts glob piece rest) : rest.length < glob.length := by
  cases h <;> simp <;> omega

/-- Something stands first in every glob but the empty one. -/
theorem exists_starts (h : glob ≠ []) : ∃ piece rest, Starts glob piece rest := by
  obtain ⟨c, rest, rfl⟩ := List.exists_cons_of_ne_nil h
  by_cases hstar : c = '*'
  · subst hstar
    cases rest with
    | nil => exact ⟨_, _, .name (by simp)⟩
    | cons d rest =>
      by_cases hd : d = '*'
      · subst hd
        by_cases hslash : rest.head? = some '/'
        · obtain ⟨rest, rfl⟩ := List.head?_eq_some_iff.1 hslash
          exact ⟨_, _, .folders⟩
        · exact ⟨_, _, .text hslash⟩
      · exact ⟨_, _, .name (by simp [hd])⟩
  by_cases hmark : c = '?'
  · subst hmark
    exact ⟨_, _, .one⟩
  by_cases hbracket : c = '['
  · subst hbracket
    by_cases hopen : ']' ∈ rest.drop 1
    · cases rest with
      | nil => cases hopen
      | cons first rest =>
        obtain ⟨body, rest, rfl, hbody⟩ := List.eq_append_cons_of_mem hopen
        by_cases hfirst : first = '!' ∨ first = '^'
        · exact ⟨_, _, .noneOf hfirst hbody⟩
        · exact ⟨_, _, .oneOf (not_or.1 hfirst) hbody⟩
    · exact ⟨_, _, .unclosed hopen⟩
  · exact ⟨_, _, .char ⟨hstar, hmark, hbracket⟩⟩

/-! ## What the reader takes -/

theorem piecesBehind_eq (skip : Nat) (glob : List Char) :
    piecesBehind skip glob = pieces (glob.drop skip) := by
  induction glob generalizing skip with
  | nil => cases skip <;> simp [pieces, piecesBehind]
  | cons c rest ih =>
    cases skip with
    | zero => rfl
    | succ skip => exact ih skip

theorem pieces_cons (c : Char) (rest : List Char) :
    pieces (c :: rest) = (firstPiece c rest).1 :: pieces (rest.drop (firstPiece c rest).2) := by
  rw [← piecesBehind_eq]
  rfl

theorem bracketBody?_closed (c : Char) (hbody : ']' ∉ body) :
    bracketBody? (c :: (body ++ ']' :: rest)) = some (c :: body) := by
  have htake : (body ++ ']' :: rest).takeWhile (· != ']') = body := by
    rw [List.takeWhile_append_of_pos]
    · simp
    · intro d hd
      simp only [bne_iff_ne]
      exact fun hclosing => hbody (hclosing ▸ hd)
  simp [bracketBody?, htake]

theorem bracketBody?_open (hopen : ']' ∉ rest.drop 1) : bracketBody? rest = none := by
  cases rest with
  | nil => rfl
  | cons c rest => simpa [bracketBody?] using hopen

/-- A closed bracket encloses something. -/
theorem bracketBody?_ne_nil (glob : List Char) : bracketBody? glob ≠ some [] := by
  cases glob with
  | nil => simp [bracketBody?]
  | cons c rest =>
    rw [bracketBody?]
    split <;> simp

theorem firstPiece_bracket (c : Char) (hbody : ']' ∉ body) :
    firstPiece '[' (c :: (body ++ ']' :: rest)) = (.ofBody (c :: body), body.length + 2) := by
  rw [firstPiece]
  · simp [bracketBody?_closed c hbody]

theorem ofBody_plain {first : Char} (hfirst : first ≠ '!' ∧ first ≠ '^') (body : List Char) :
    Piece.ofBody (first :: body) = .oneOf false (first :: body) := by
  simp [Piece.ofBody, hfirst.1, hfirst.2]

theorem ofBody_marked {mark : Char} (hmark : mark = '!' ∨ mark = '^') (body : List Char) :
    Piece.ofBody (mark :: body) = .oneOf true body := by
  rcases hmark with rfl | rfl <;> rfl

/-- What the reader takes first, and how much of the glob it takes, is what stands first. -/
theorem firstPiece_of_starts {c : Char} {behind : List Char} (h : Starts (c :: behind) piece rest) :
    (firstPiece c behind).1 = piece ∧ behind.drop (firstPiece c behind).2 = rest := by
  cases h with
  | folders => exact ⟨rfl, rfl⟩
  | text hslash =>
    cases rest with
    | nil => exact ⟨rfl, rfl⟩
    | cons c rest =>
      have hc : c ≠ '/' := fun hc => hslash (hc ▸ rfl)
      simp [firstPiece, hc]
  | name hstar =>
    cases rest with
    | nil => exact ⟨rfl, rfl⟩
    | cons c rest =>
      have hc : c ≠ '*' := fun hc => hstar (hc ▸ rfl)
      simp [firstPiece, hc]
  | one => exact ⟨rfl, rfl⟩
  | oneOf hfirst hbody =>
    rw [firstPiece_bracket _ hbody, ofBody_plain hfirst]
    exact ⟨rfl, by simp⟩
  | noneOf hmark hbody =>
    rw [firstPiece_bracket _ hbody, ofBody_marked hmark]
    exact ⟨rfl, by simp⟩
  | unclosed hopen => simp [firstPiece, bracketBody?_open hopen]
  | char hc => simp [firstPiece, hc]

theorem pieces_of_starts (h : Starts glob piece rest) : pieces glob = piece :: pieces rest := by
  cases glob with
  | nil => cases h
  | cons c behind =>
    obtain ⟨hpiece, hrest⟩ := firstPiece_of_starts h
    rw [pieces_cons, hpiece, hrest]

/-- A glob falls into pieces in exactly one way, which is the one the reader finds. -/
theorem tokens_iff {tokens : List Piece} : Tokens glob tokens ↔ tokens = pieces glob := by
  constructor
  · intro h
    induction h with
    | nil => rfl
    | cons hfirst _ ih => rw [pieces_of_starts hfirst, ih]
  · rintro rfl
    induction hlength : glob.length using Nat.strongRecOn generalizing glob with
    | ind length ih =>
      by_cases hglob : glob = []
      · subst hglob
        exact .nil
      · obtain ⟨piece, rest, hfirst⟩ := exists_starts hglob
        rw [pieces_of_starts hfirst]
        exact .cons hfirst (ih _ (hlength ▸ hfirst.length_lt) rfl)

/-! ## Well-formed pieces -/

/-- A piece that some glob has: brackets are closed by the first closing bracket, unless it is what
they begin with, and a mark of negation is not part of what they enclose. -/
inductive Piece.Sound : Piece → Prop where
  | folders : Sound .folders
  | text : Sound .text
  | name : Sound .name
  | one : Sound .one
  | oneOf {first : Char} {body : List Char} (hfirst : first ≠ '^') (hbody : ']' ∉ body) :
      Sound (.oneOf false (first :: body))
  | noneOf {body : List Char} (hbody : ']' ∉ body) : Sound (.oneOf true body)
  | char {c : Char} : Sound (.char c)

theorem sound_of_starts (h : Starts glob piece rest) : piece.Sound := by
  cases h with
  | folders => exact .folders
  | text => exact .text
  | name => exact .name
  | one => exact .one
  | oneOf hfirst hbody => exact .oneOf hfirst.2 hbody
  | noneOf _ hbody => exact .noneOf hbody
  | unclosed => exact .char
  | char => exact .char

theorem sound_of_tokens {tokens : List Piece} (h : Tokens glob tokens) :
    ∀ piece ∈ tokens, piece.Sound := by
  induction h with
  | nil => intro piece hpiece; cases hpiece
  | cons hfirst _ ih =>
    intro piece hpiece
    rcases List.mem_cons.1 hpiece with rfl | hpiece
    · exact sound_of_starts hfirst
    · exact ih piece hpiece

theorem sound_pieces (glob : List Char) : ∀ piece ∈ pieces glob, piece.Sound :=
  sound_of_tokens (tokens_iff.2 rfl)

end CommitRules.Glob
