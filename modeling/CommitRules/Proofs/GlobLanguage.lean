import CommitRules.Glob.Match
import CommitRules.Proofs.GlobText
import CommitRules.Proofs.Matching

/-!
# CommitRules.Proofs.GlobLanguage

What a glob matches, said without its regular expression: the paths that are a text for each of its
pieces, one after the other.

* `Piece.Spells`: the texts of a piece.
* `recognizes_node`: what a piece is compiled to matches the texts of the piece.
* `takes_plain`: a list of one glob takes in the paths its pieces spell.
* `glob_language`: the expression of any glob matches these paths.
-/

namespace CommitRules.Glob

open CommitRules.Regex CommitRules.Text

/-- The characters between brackets, from left to right: a hyphen between two characters makes them
the ends of a range, and every other character stands for itself. -/
def inSet (c : Char) : List Char → Bool
  | [] => false
  | low :: '-' :: high :: rest => (low ≤ c && c ≤ high) || inSet c rest
  | d :: rest => c == d || inSet c rest

/-- The texts a piece stands for. -/
def Piece.Spells (text : List Char) : Piece → Prop
  | .folders => text = [] ∨ ∃ folders, '\n' ∉ folders ∧ text = folders ++ ['/']
  | .text => '\n' ∉ text
  | .name => '/' ∉ text
  | .one => ∃ c, text = [c] ∧ c ≠ '/'
  | .oneOf true body => ∃ c, text = [c] ∧ inSet c ('/' :: body) = false
  | .oneOf false body => ∃ c, text = [c] ∧ inSet c body = true
  | .char c => text = [c]

/-- The paths that some pieces stand for, one after the other. -/
def Spells (pieces : List Piece) (path : List Char) : Prop :=
  ∃ texts, List.Forall₂ (fun piece text => piece.Spells text) pieces texts ∧ texts.flatten = path

theorem spells_nil {path : List Char} : Spells [] path ↔ path = [] := by
  constructor
  · rintro ⟨texts, htexts, rfl⟩
    cases htexts
    rfl
  · rintro rfl
    exact ⟨[], .nil, rfl⟩

theorem spells_cons {piece : Piece} {pieces : List Piece} {path : List Char} :
    Spells (piece :: pieces) path ↔
      ∃ text rest, path = text ++ rest ∧ piece.Spells text ∧ Spells pieces rest := by
  constructor
  · rintro ⟨texts, htexts, rfl⟩
    cases htexts with
    | @cons _ text _ texts htext htexts =>
      exact ⟨text, texts.flatten, List.flatten_cons, htext, texts, htexts, rfl⟩
  · rintro ⟨text, rest, rfl, htext, texts, htexts, rfl⟩
    exact ⟨text :: texts, .cons htext htexts, List.flatten_cons⟩

theorem spells_single {piece : Piece} {path : List Char} :
    Spells [piece] path ↔ piece.Spells path := by
  rw [spells_cons]
  constructor
  · rintro ⟨text, rest, rfl, htext, hrest⟩
    rw [spells_nil.1 hrest, List.append_nil]
    exact htext
  · intro h
    exact ⟨path, [], (List.append_nil path).symm, h, spells_nil.2 rfl⟩

/-! ## Characters -/

theorem accepts_exactly (c d : Char) : (exactly c).accepts d = true ↔ d = c := by
  simp [exactly, CharTest.accepts, Folding.admits, Folding.fold, Char.toNat_inj]

theorem accepts_notSlash (c : Char) : notSlash.accepts c = true ↔ c ≠ '/' := by
  have hslash : c.toNat = 47 ↔ c = '/' := Char.toNat_inj (d := '/')
  simp [notSlash, CharTest.accepts, Folding.admits, Folding.fold, hslash]

theorem accepts_any (c : Char) : (CharTest.any false).accepts c = true ↔ c ≠ '\n' := by
  simp [CharTest.accepts]

/-- A class accepts what one of its members admits, also when the test is for one character. -/
theorem accepts_classTest (negated : Bool) (items : List ClassItem) (c : Char) :
    (classTest .exact false negated items).accepts c =
      (items.any (·.admits .exact false c.toNat) != negated) := by
  have hany : items.eraseDups.any (·.admits .exact false c.toNat) =
      items.any (·.admits .exact false c.toNat) := by
    rw [Bool.eq_iff_iff]
    simp [List.any_eq_true, List.mem_eraseDups]
  rw [← hany, classTest]
  split
  · next code hitems =>
    rw [hitems]
    simp [CharTest.accepts, ClassItem.admits, Folding.admits, Folding.fold]
  · rfl

theorem any_members (c : Char) (offset : Nat) (body : List Char) :
    ∀ items, members offset body = .ok items →
      items.any (·.admits .exact false c.toNat) = inSet c body := by
  induction offset, body using members.induct with
  | case1 offset => intro items h; cases h; rfl
  | case2 offset low high rest hbad =>
    intro items h
    rw [members_range, if_pos hbad] at h
    cases h
  | case3 offset low high rest hgood width ih =>
    intro items h
    rw [members_range, if_neg hgood] at h
    cases hrest : members (offset + width) rest with
    | error fault => rw [hrest] at h; cases h
    | ok more =>
      rw [hrest] at h
      cases h
      rw [List.any_cons, ih more hrest, inSet]
      rfl
  | case4 offset d rest hrange ih =>
    intro items h
    rw [members_char _ hrange] at h
    cases hrest : members (offset + (renderMember d).length) rest with
    | error fault => rw [hrest] at h; cases h
    | ok more =>
      rw [hrest] at h
      cases h
      have hchar : (c.toNat == d.toNat) = (c == d) := by
        rw [Bool.eq_iff_iff, beq_iff_eq, beq_iff_eq, Char.toNat_inj]
      rw [List.any_cons, ih more hrest, inSet]
      · simp [ClassItem.admits, Folding.admits, hchar]
      · exact hrange

/-! ## Pieces -/

/-- The texts of a piece as a language. -/
def Piece.texts (piece : Piece) : Language Char := {text | piece.Spells text}

theorem recognizes_as {node : Node} {language : Language Char} {piece : Piece}
    (h : Recognizes node language) (htexts : ∀ text, text ∈ language ↔ piece.Spells text) :
    Recognizes node piece.texts := by
  have hlanguage : language = piece.texts := Set.ext htexts
  exact hlanguage ▸ h

theorem recognizes_class {piece : Piece} {body : List Char} {offset : Nat} {negated : Bool}
    {node : Node}
    (h : (members offset body >>= fun items =>
      pure (.one (classTest .exact false negated items))) = Except.ok node)
    (htexts : ∀ text, piece.Spells text ↔ ∃ c, text = [c] ∧ inSet c body = !negated) :
    Recognizes node piece.texts := by
  cases hmembers : members offset body with
  | error fault => rw [hmembers] at h; cases h
  | ok items =>
    rw [hmembers] at h
    cases h
    refine recognizes_as (recognizes_one _) fun text => ?_
    rw [htexts]
    refine exists_congr fun c => and_congr_right fun _ => ?_
    rw [accepts_classTest, any_members c _ _ _ hmembers]
    cases negated <;> simp

theorem recognizes_folders : Recognizes
    (.rounds .greedy onceAtMost (.seq (many (.any false)) (.one (exactly '/'))))
    Piece.folders.texts := by
  refine recognizes_as
    (recognizes_optional (recognizes_seq (recognizes_many _) (recognizes_one _))) fun text => ?_
  refine or_congr (Language.mem_one text) ?_
  constructor
  · rintro ⟨folders, hfolders, slash, ⟨c, rfl, hc⟩, rfl⟩
    rw [accepts_exactly] at hc
    subst hc
    exact ⟨folders, fun hmem => (accepts_any _).1 (hfolders _ hmem) rfl, rfl⟩
  · rintro ⟨folders, hfolders, rfl⟩
    refine ⟨folders, fun c hc => (accepts_any c).2 fun h => hfolders (h ▸ hc), ['/'], ?_, rfl⟩
    exact ⟨'/', rfl, (accepts_exactly _ _).2 rfl⟩

/-- What a piece is compiled to matches the texts of the piece. -/
theorem recognizes_node {piece : Piece} {offset : Nat} {node : Node}
    (h : piece.node offset = .ok node) : Recognizes node piece.texts := by
  cases piece with
  | folders => cases h; exact recognizes_folders
  | text =>
    cases h
    refine recognizes_as (recognizes_many _) fun text => ?_
    constructor
    · intro hall hmem
      exact (accepts_any _).1 (hall _ hmem) rfl
    · intro hnone c hc
      exact (accepts_any c).2 fun h => hnone (h ▸ hc)
  | name =>
    cases h
    refine recognizes_as (recognizes_many _) fun text => ?_
    constructor
    · intro hall hmem
      exact (accepts_notSlash _).1 (hall _ hmem) rfl
    · intro hnone c hc
      exact (accepts_notSlash c).2 fun h => hnone (h ▸ hc)
  | one =>
    cases h
    refine recognizes_as (recognizes_one _) fun text => ?_
    exact exists_congr fun c => and_congr_right fun _ => accepts_notSlash c
  | oneOf negated body =>
    cases negated with
    | true => exact recognizes_class h fun text => Iff.rfl
    | false => exact recognizes_class h fun text => Iff.rfl
  | char d =>
    cases h
    refine recognizes_as (recognizes_one _) fun text => ?_
    constructor
    · rintro ⟨c, rfl, hc⟩
      exact congrArg (fun c => [c]) ((accepts_exactly d c).1 hc)
    · rintro rfl
      exact ⟨d, rfl, (accepts_exactly d d).2 rfl⟩

/-! ## Globs -/

theorem recognizes_nodes {pieces : List Piece} :
    ∀ (offset : Nat) (found : List Node), nodes offset pieces = .ok found →
      List.Forall₂ Recognizes found (pieces.map Piece.texts) := by
  induction pieces with
  | nil =>
    intro offset found h
    cases h
    exact .nil
  | cons piece pieces ih =>
    intro offset found h
    obtain ⟨node, more, hpiece, hmore, rfl⟩ := nodes_cons_ok h
    exact .cons (recognizes_node hpiece) (ih _ _ hmore)

theorem mem_prod_texts (pieces : List Piece) :
    ∀ path, path ∈ (pieces.map Piece.texts).prod ↔ Spells pieces path := by
  induction pieces with
  | nil =>
    intro path
    rw [List.map_nil, List.prod_nil, Language.mem_one, spells_nil]
  | cons piece pieces ih =>
    intro path
    rw [List.map_cons, List.prod_cons, Language.mem_mul, spells_cons]
    constructor
    · rintro ⟨text, htext, rest, hrest, rfl⟩
      exact ⟨text, rest, rfl, htext, (ih rest).1 hrest⟩
    · rintro ⟨text, rest, rfl, htext, hrest⟩
      exact ⟨text, htext, rest, (ih rest).2 hrest, rfl⟩

/-- A glob is compiled to a pattern for the paths its pieces spell. -/
theorem matchesAll_of_compile {glob : List Char} {node : Node} (h : compile glob = .ok node)
    (path : List Char) : node.matchesAll path = true ↔ Spells (pieces glob) path := by
  rw [compile] at h
  cases hnodes : nodes 0 (pieces glob) with
  | error fault => simp [hnodes] at h
  | ok found =>
    simp only [hnodes] at h
    cases h
    rw [matchesAll_iff (recognizes_sequence (recognizes_nodes _ _ hnodes)), mem_prod_texts]

theorem compile_eq (glob : List Char) :
    compile glob = match readPattern Options.none (render (pieces glob)) with
      | .ok (node, _) => .ok node
      | .error fault => .error (.badPattern (fault.message (render (pieces glob)))) := by
  rw [compile, readPattern_render (sound_pieces glob)]
  cases nodes 0 (pieces glob) <;> rfl

/-- A list of one glob, neither negated nor with alternatives, takes in the paths the glob
spells. -/
theorem takes_plain {glob : String} {node : Node} (hbrace : '{' ∉ glob.toList)
    (hmark : glob.toList.head? ≠ some '!') (hcompile : compile glob.toList = .ok node)
    (path : String) :
    ∃ taken, takes [glob] path = .ok taken ∧
      (taken = true ↔ Spells (pieces glob.toList) path.toList) := by
  have hentry : Entry.ofText glob.toList = .ok ⟨false, [node]⟩ := by
    unfold Entry.ofText
    split
    · next rest hglob => rw [hglob] at hmark; exact (hmark rfl).elim
    · rw [expand_of_not_mem hbrace]
      simp [hcompile]
  refine ⟨node.matchesAll path.toList, ?_, matchesAll_of_compile hcompile _⟩
  simp [takes, hentry, verdict, Entry.hits]

/-- Every glob falls into pieces in exactly one way, with something between any brackets. If the
expression of the pieces is a pattern, it is what the glob is compiled to, and it matches a path as
a whole if and only if the path is a text for each piece, one after the other. -/
theorem glob_language (glob : List Char) :
    (∀ tokens, Tokens glob tokens ↔ tokens = pieces glob) ∧
    (∀ behind, bracketBody? behind ≠ some []) ∧
    (∀ node options, readPattern Options.none (render (pieces glob)) = .ok (node, options) →
      compile glob = .ok node ∧
      ∀ path, node.matchesAll path = true ↔ Spells (pieces glob) path) ∧
    (∀ fault, readPattern Options.none (render (pieces glob)) = .error fault →
      compile glob = .error (.badPattern (fault.message (render (pieces glob))))) := by
  have hcompile := compile_eq glob
  refine ⟨fun tokens => tokens_iff, bracketBody?_ne_nil, ?_, ?_⟩
  · intro node options hread
    rw [hread] at hcompile
    exact ⟨hcompile, matchesAll_of_compile hcompile⟩
  · intro fault hread
    rw [hread] at hcompile
    exact hcompile

theorem glob_language_text_file :
    ∃ node options,
      readPattern Options.none (render (pieces "**/[!a-c]?.t*".toList)) = .ok (node, options) ∧
        node.matchesAll "x/y/dz.txt".toList = true := by
  have hpieces : pieces "**/[!a-c]?.t*".toList =
      [.folders, .oneOf true ['a', '-', 'c'], .one, .char '.', .char 't', .name] := rfl
  have hnodes : ∃ found, nodes 0 (pieces "**/[!a-c]?.t*".toList) = .ok found := by
    rw [hpieces]
    exact ⟨_, rfl⟩
  obtain ⟨found, hfound⟩ := hnodes
  have hread := readPattern_render (sound_pieces "**/[!a-c]?.t*".toList)
  rw [hfound] at hread
  refine ⟨_, _, hread, (((glob_language _).2.2.1 _ _ hread).2 _).2 ?_⟩
  rw [hpieces]
  have hname : '/' ∉ ['x', 't'] := by decide
  refine ⟨[['x', '/', 'y', '/'], ['d'], ['z'], ['.'], ['t'], ['x', 't']], ?_, rfl⟩
  refine .cons (.inr ⟨['x', '/', 'y'], by decide, rfl⟩) (.cons ⟨'d', rfl, by decide⟩ ?_)
  exact .cons ⟨'z', rfl, by decide⟩ (.cons rfl (.cons rfl (.cons hname .nil)))

end CommitRules.Glob
