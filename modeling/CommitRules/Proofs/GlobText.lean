import CommitRules.Proofs.GlobBrackets
import CommitRules.Proofs.GlobTokens

/-!
# CommitRules.Proofs.GlobText

A glob is written out as a regular expression piece by piece. Reading that expression gives the
pattern the pieces are compiled to: what is escaped stands for itself again, and no piece runs into
the next one.

* `readsAs_of_sound`: a piece that is written out is read as the pattern it is compiled to.
* `readPattern_render`: so is a glob, with the same faults at the same places.
-/

namespace CommitRules.Glob

open CommitRules.Regex CommitRules.Regex.Feed CommitRules.Text

/-! ## Pieces -/

/-- The characters that are escaped. -/
def specials : List Char :=
  ['(', ')', '[', ']', '?', '*', '+', '-', '|', '^', '$', '.', '&', '~', '#', ' ', '\t', '\n', '\r',
    '{', '}', backslash, Char.ofNat 11, Char.ofNat 12]

theorem isSpecial_iff {c : Char} : isSpecial c = true ↔ c ∈ specials := by
  have h11 : c.toNat = 11 ↔ c = Char.ofNat 11 :=
    ⟨fun h => by rw [← h, Char.ofNat_toNat], fun h => h ▸ rfl⟩
  have h12 : c.toNat = 12 ↔ c = Char.ofNat 12 :=
    ⟨fun h => by rw [← h, Char.ofNat_toNat], fun h => h ▸ rfl⟩
  simp [isSpecial, specials, h11, h12, or_assoc]

section Pieces

variable {reader : Reader} {rest : List Char} {c : Char} (fuel offset : Nat)

/-- The escape of a special character has no other meaning. -/
theorem takeEscape_special (h : isSpecial c = true) (groups : Groups) (feed : Feed) :
    takeEscape groups c feed = .ok (.code c.toNat, feed) := by
  have hall : ∀ d ∈ specials, takeEscape groups d feed = .ok (.code d.toNat, feed) := by
    simp only [specials, List.forall_mem_cons]
    repeat' apply And.intro
    all_goals first | rfl | simp
  exact hall c (isSpecial_iff.1 h)

theorem ne_of_plain (h : isSpecial c = false) {d : Char} (hd : d ∈ specials) : c ≠ d := by
  rintro rfl
  rw [isSpecial_iff.2 hd] at h
  cases h

/-- A character that is not special stands for itself. -/
theorem takeChar_plain (hreader : reader.frame.options = Options.none) (h : isSpecial c = false)
    (feed : Feed) : takeChar reader offset c feed = .ok (reader.pushCode c.toNat, feed) := by
  have hplain : c ∉ specials := fun hmem => ne_of_plain h hmem rfl
  simp only [specials, List.mem_cons, not_or] at hplain
  unfold takeChar
  simp [hreader, Options.none, nameOpens, hplain]
  rfl

theorem readAll_cons (hc : c ≠ backslash ∧ c ≠ '|' ∧ c ≠ ')') (hrest : rest ≠ [backslash]) :
    readAll (fuel + 1) reader (ofChars offset (c :: rest)) =
      takeChar reader offset c (ofChars (offset + 1) rest) >>= fun (after, feed) =>
        readAll fuel after feed := by
  rw [ofChars_char offset hc.1, readAll]
  simp only [hc.2, if_false, settled_ofChars _ hrest]
  rfl

/-- A text that does not go on what stands before it: it repeats nothing, and it does not begin with
a backslash that escapes nothing. -/
structure Fresh (rest : List Char) : Prop where
  loose : rest ≠ [backslash]
  lazy : rest.head? ≠ some '?'
  possessive : rest.head? ≠ some '+'

/-- The latest item becomes a repetition. -/
theorem takeRepetition_fresh {node : Node} {width : Width} {mark : Nat} (bounds : Bounds)
    (hrest : Fresh rest) (reader : Reader) :
    takeRepetition (reader.push node width .other) mark bounds (ofChars offset rest) =
      .ok (reader.push (node.repeated .greedy bounds) (width.times bounds) .repetition,
        ofChars offset rest) := by
  unfold takeRepetition
  simp only [Reader.push, Frame.push, taking_ofChars_other _ hrest.lazy, bind, Except.bind]
  simp [taking_ofChars_other _ hrest.possessive]
  rfl

/-- A mark that repeats what stands before it. -/
theorem readAll_repetition {node : Node} {width : Width} {mark : Char} {bounds : Bounds}
    (hmark : mark = '*' ∧ bounds = ⟨0, none⟩ ∨ mark = '?' ∧ bounds = ⟨0, some 1⟩)
    (hreader : reader.frame.options = Options.none) (hrest : Fresh rest) :
    readAll (fuel + 1) (reader.push node width .other) (ofChars offset (mark :: rest)) =
      readAll fuel (reader.push (node.repeated .greedy bounds) (width.times bounds) .repetition)
        (ofChars (offset + 1) rest) := by
  have hchar : ∀ feed, takeChar (reader.push node width .other) offset mark feed =
      takeRepetition (reader.push node width .other) offset bounds feed := by
    intro feed
    obtain ⟨rfl, rfl⟩ | ⟨rfl, rfl⟩ := hmark <;>
      simp [takeChar, Reader.push, Frame.push, hreader, Options.none, nameOpens]
  have hplain : mark ≠ backslash ∧ mark ≠ '|' ∧ mark ≠ ')' := by
    obtain ⟨rfl, -⟩ | ⟨rfl, -⟩ := hmark <;> decide
  rw [readAll_cons _ _ hplain hrest.loose, hchar, takeRepetition_fresh _ _ hrest]
  rfl

theorem readAll_star {test : CharTest} (hreader : reader.frame.options = Options.none)
    (hrest : Fresh rest) :
    readAll (fuel + 1) (reader.pushTest test) (ofChars offset ('*' :: rest)) =
      readAll fuel (reader.push (many test) (Width.one.times ⟨0, none⟩) .repetition)
        (ofChars (offset + 1) rest) :=
  readAll_repetition fuel offset (.inl ⟨rfl, rfl⟩) hreader hrest

theorem readAll_dot (hreader : reader.frame.options = Options.none) (hrest : rest ≠ [backslash]) :
    readAll (fuel + 1) reader (ofChars offset ('.' :: rest)) =
      readAll fuel (reader.pushTest (.any false)) (ofChars (offset + 1) rest) := by
  rw [readAll_cons _ _ (by decide) hrest]
  simp [takeChar, hreader, Options.none, nameOpens]

/-- A class, once its members are read. -/
theorem readAll_class (hreader : reader.frame.options = Options.none) (hrest : rest ≠ [backslash]) :
    readAll (fuel + 1) reader (ofChars offset ('[' :: rest)) =
      takeClass .exact false offset (ofChars (offset + 1) rest) >>= fun (test, feed) =>
        readAll fuel (reader.pushTest test) feed := by
  rw [readAll_cons _ _ (by decide) hrest]
  simp [takeChar, hreader, Options.none, nameOpens]
  rfl

theorem size_append {taken : List Char} (htaken : backslash ∉ taken) (rest : List Char) :
    (ofChars offset (taken ++ rest)).size =
      taken.length + (ofChars (offset + taken.length) rest).size := by
  induction taken generalizing offset with
  | nil => simp
  | cons c taken ih =>
    have hc : c ≠ backslash := fun hc => htaken (hc ▸ List.mem_cons_self)
    rw [List.cons_append, ofChars_char offset hc, Feed.size,
      ih (offset + 1) fun h => htaken (List.mem_cons_of_mem c h), List.length_cons]
    rw [Nat.add_assoc offset, Nat.add_comm 1]
    omega

end Pieces

/-- How a piece that is written out is read: as the pattern it is compiled to, or with the same
fault. The steps it takes are at most the characters and escapes that it has. -/
def ReadsAs (piece : Piece) : Prop :=
  ∀ (reader : Reader) (offset : Nat) (rest : List Char),
    reader.frame.options = Options.none → Fresh rest →
    ∃ width shape steps,
      (ofChars (offset + piece.render.length) rest).size + steps ≤
        (ofChars offset (piece.render ++ rest)).size ∧
      ∀ fuel, readAll (fuel + steps) reader (ofChars offset (piece.render ++ rest)) =
        piece.node offset >>= fun node =>
          readAll fuel (reader.push node width shape) (ofChars (offset + piece.render.length) rest)

/-- A piece that is always written the same. -/
theorem readsAs_fixed {piece : Piece} {node : Node} (text : List Char) (width : Width)
    (shape : Shape) (steps : Nat) (hrender : piece.render = text)
    (hnode : ∀ offset, piece.node offset = .ok node) (hplain : backslash ∉ text)
    (hsteps : steps ≤ text.length)
    (hread : ∀ reader offset rest, reader.frame.options = Options.none → Fresh rest → ∀ fuel,
      readAll (fuel + steps) reader (ofChars offset (text ++ rest)) =
        readAll fuel (reader.push node width shape) (ofChars (offset + text.length) rest)) :
    ReadsAs piece := by
  intro reader offset rest hreader hrest
  rw [hrender, hnode, size_append offset hplain]
  exact ⟨width, shape, steps, by omega, hread reader offset rest hreader hrest⟩

theorem readsAs_text : ReadsAs .text := by
  refine readsAs_fixed ['.', '*'] (Width.one.times ⟨0, none⟩) .repetition 2 rfl (fun _ => rfl)
    (by decide) (by decide) fun reader offset rest hreader hrest fuel => ?_
  exact (readAll_dot _ _ hreader (cons_ne_loose (by decide))).trans
    (readAll_star _ _ hreader hrest)

/-- The class of everything but a slash. -/
theorem takeClass_slash (opened offset : Nat) {rest : List Char} (hrest : rest ≠ [backslash]) :
    takeClass .exact false opened (ofChars offset ('^' :: '/' :: ']' :: rest)) =
      .ok (notSlash, ofChars (offset + 3) rest) :=
  have hclosing : ']' ∉ ['/'] := by decide
  takeClass_negated offset hclosing (List.cons_ne_nil _ _) hrest

theorem readAll_slash (reader : Reader) (fuel offset : Nat) {rest : List Char}
    (hreader : reader.frame.options = Options.none) (hrest : rest ≠ [backslash]) :
    readAll (fuel + 1) reader (ofChars offset ('[' :: '^' :: '/' :: ']' :: rest)) =
      readAll fuel (reader.pushTest notSlash) (ofChars (offset + 4) rest) := by
  rw [readAll_class _ _ hreader (cons_ne_loose (by decide)), takeClass_slash _ _ hrest]
  rfl

theorem readsAs_one : ReadsAs .one := by
  refine readsAs_fixed ['[', '^', '/', ']'] .one .other 1 rfl (fun _ => rfl) (by decide)
    (by decide) fun reader offset rest hreader hrest fuel => ?_
  exact readAll_slash _ _ _ hreader hrest.loose

theorem readsAs_name : ReadsAs .name := by
  refine readsAs_fixed ['[', '^', '/', ']', '*'] (Width.one.times ⟨0, none⟩) .repetition 2 rfl
    (fun _ => rfl) (by decide) (by decide) fun reader offset rest hreader hrest fuel => ?_
  exact (readAll_slash _ _ _ hreader (cons_ne_loose (by decide))).trans
    (readAll_star _ _ hreader hrest)

theorem readAll_plain (reader : Reader) (fuel offset : Nat) {rest : List Char}
    (hreader : reader.frame.options = Options.none) (hrest : rest ≠ [backslash]) :
    readAll (fuel + 1) reader (ofChars offset ('(' :: '?' :: ':' :: rest)) =
      readAll fuel (reader.enter .plain offset Options.none) (ofChars (offset + 3) rest) := by
  have hmark : ':' :: rest ≠ [backslash] := cons_ne_loose (by decide)
  have htaking := taking_ofChars_cons (offset + 1) (show '?' ≠ backslash by decide) hmark
  have hopening : takeOpening reader offset (ofChars (offset + 1) ('?' :: ':' :: rest)) =
      .ok (reader.enter .plain offset Options.none, ofChars (offset + 3) rest) := by
    rw [takeOpening]
    simp only [htaking, ofChars_char (offset + 1 + 1) (show ':' ≠ backslash by decide), bind,
      Except.bind, Feed.next?, settled_ofChars _ hrest, takeExtension, hreader]
    rfl
  rw [readAll_cons _ _ (by decide) (cons_ne_loose (by decide))]
  have hchar : takeChar reader offset '(' (ofChars (offset + 1) ('?' :: ':' :: rest)) =
      takeOpening reader offset (ofChars (offset + 1) ('?' :: ':' :: rest)) := by
    simp [takeChar, hreader, Options.none, nameOpens]
  rw [hchar, hopening]
  rfl

theorem readAll_close (reader : Reader) (frame : Frame) (fuel offset : Nat) {rest : List Char}
    (hframe : frame.opening = .plain) (hrest : rest ≠ [backslash]) :
    readAll (fuel + 1) { reader with frame, outer := reader.frame :: reader.outer }
        (ofChars offset (')' :: rest)) =
      readAll fuel { reader with frame := reader.frame.push frame.item }
        (ofChars (offset + 1) rest) := by
  rw [ofChars_char offset (by decide), readAll, if_neg (by decide), if_pos rfl]
  simp only [closeGroup, settled_ofChars _ hrest, hframe, bind, Except.bind]
  rfl

theorem fresh_cons {c : Char} (hc : c ≠ backslash ∧ c ≠ '?' ∧ c ≠ '+') (rest : List Char) :
    Fresh (c :: rest) :=
  ⟨cons_ne_loose hc.1, fun h => hc.2.1 (Option.some.inj h), fun h => hc.2.2 (Option.some.inj h)⟩

theorem readsAs_folders : ReadsAs .folders := by
  let width := (Width.zero.add (Width.one.times ⟨0, none⟩)).add .one
  refine readsAs_fixed ['(', '?', ':', '.', '*', '/', ')', '?'] (width.times ⟨0, some 1⟩)
    .repetition 6 rfl (fun _ => rfl) (by decide) (by decide)
    fun reader offset rest hreader hrest fuel => ?_
  have hinside : readAll (fuel + 6) reader
      (ofChars offset ('(' :: '?' :: ':' :: '.' :: '*' :: '/' :: ')' :: '?' :: rest)) = _ :=
    readAll_plain _ _ _ hreader (cons_ne_loose (by decide))
  refine hinside.trans ?_
  rw [readAll_dot _ _ rfl (cons_ne_loose (by decide)),
    readAll_star _ _ rfl (fresh_cons (by decide) _),
    readAll_cons _ _ (by decide) (cons_ne_loose (by decide)), takeChar_plain _ rfl (by decide)]
  -- the group is closed with what has been read inside it
  have hclose := readAll_close reader
    ((((reader.enter .plain offset Options.none).push (many (.any false))
      (Width.one.times ⟨0, none⟩) .repetition).pushCode 47).frame) (fuel + 1) (offset + 6) rfl
    (cons_ne_loose (show '?' ≠ backslash by decide) : '?' :: rest ≠ [backslash])
  refine hclose.trans ?_
  exact readAll_repetition _ _ (.inr ⟨rfl, rfl⟩) hreader hrest

/-- A piece that is written as a class, with `mark` in front of its members. -/
theorem readsAs_class {piece : Piece} {mark body : List Char} {negated : Bool}
    (hrender : ∀ rest, piece.render ++ rest =
      '[' :: (mark ++ (body.flatMap renderMember ++ ']' :: rest)))
    (hnode : ∀ offset, piece.node offset = members (offset + 1 + mark.length) body >>= fun items =>
      pure (.one (classTest .exact false negated items)))
    (hmark : backslash ∉ mark)
    (htake : ∀ opened offset rest, rest ≠ [backslash] →
      takeClass .exact false opened
          (ofChars offset (mark ++ (body.flatMap renderMember ++ ']' :: rest))) =
        (members (offset + mark.length) body).map fun items =>
          (classTest .exact false negated items,
            ofChars (offset + mark.length + (body.flatMap renderMember).length + 1) rest)) :
    ReadsAs piece := by
  intro reader offset rest hreader hrest
  have hlength := congrArg List.length (hrender [])
  simp only [List.append_nil, List.length_append, List.length_cons, List.length_nil] at hlength
  have hbehind : offset + piece.render.length =
      offset + 1 + mark.length + (body.flatMap renderMember).length + 1 := by omega
  have hloose : mark ++ (body.flatMap renderMember ++ ']' :: rest) ≠ [backslash] := by
    cases mark with
    | nil => exact flatMap_append_ne body rest
    | cons c mark => exact cons_ne_loose fun hc => hmark (hc ▸ List.mem_cons_self)
  rw [hrender, hbehind]
  refine ⟨.one, .other, 1, ?_, fun fuel => ?_⟩
  · have hopening := size_append offset (show backslash ∉ ['['] by decide)
      (mark ++ (body.flatMap renderMember ++ ']' :: rest))
    have hclosing := size_append (offset + 1 + mark.length + (body.flatMap renderMember).length)
      (show backslash ∉ [']'] by decide) rest
    rw [size_append _ hmark, size_flatMap] at hopening
    simp only [List.singleton_append, List.length_singleton] at hopening hclosing
    omega
  · rw [readAll_class _ _ hreader hloose, htake _ _ _ hrest.loose, hnode]
    cases members (offset + 1 + mark.length) body <;> rfl

theorem readsAs_noneOf {body : List Char} (hbody : ']' ∉ body) : ReadsAs (.oneOf true body) := by
  have hclosing : ']' ∉ '/' :: body := by simpa using hbody
  have hrender : Piece.render (.oneOf true body) =
    '[' :: '^' :: (('/' :: body).flatMap renderMember ++ [']']) := rfl
  refine readsAs_class (fun rest => ?_) (fun offset => rfl) (show backslash ∉ ['^'] by decide)
    fun opened offset rest hrest => ?_
  · simp only [hrender, List.cons_append, List.nil_append, List.append_assoc]
  · exact takeClass_negated _ hclosing (List.cons_ne_nil _ _) hrest

theorem readsAs_oneOf {first : Char} {body : List Char} (hfirst : first ≠ '^')
    (hbody : ']' ∉ body) : ReadsAs (.oneOf false (first :: body)) := by
  have hclosing : ']' ∉ (first :: body).tail := hbody
  have hmark : (first :: body).head? ≠ some '^' := fun h => hfirst (Option.some.inj h)
  have hrender : Piece.render (.oneOf false (first :: body)) =
    '[' :: ((first :: body).flatMap renderMember ++ [']']) := rfl
  refine readsAs_class (fun rest => ?_) (fun offset => rfl) List.not_mem_nil
    fun opened offset rest hrest => ?_
  · simp only [hrender, List.cons_append, List.nil_append, List.append_assoc]
  · exact takeClass_plain _ hclosing (List.cons_ne_nil _ _) hmark hrest

theorem readsAs_char {c : Char} : ReadsAs (.char c) := by
  intro reader offset rest hreader hrest
  have hrender : Piece.render (.char c) = renderChar c := rfl
  rw [hrender, renderChar]
  cases hspecial : isSpecial c with
  | true =>
    refine ⟨.one, .other, 1, ?_, fun fuel => ?_⟩
    · exact Nat.le_of_eq (congrArg Feed.size (ofChars_escape offset c rest)).symm
    · rw [if_pos rfl, List.cons_append, List.singleton_append, ofChars_escape, readAll]
      simp only [settled_ofChars _ hrest.loose, takeEscape_special hspecial, bind, Except.bind,
        Reader.pushEscape, Reader.pushCode, hreader]
      rfl
  | false =>
    have hplain : c ≠ backslash ∧ c ≠ '|' ∧ c ≠ ')' :=
      ⟨ne_of_plain hspecial (by decide), ne_of_plain hspecial (by decide),
        ne_of_plain hspecial (by decide)⟩
    refine ⟨.one, .other, 1, ?_, fun fuel => ?_⟩
    · exact Nat.le_of_eq (congrArg Feed.size (ofChars_char offset hplain.1 rest)).symm
    · rw [if_neg Bool.false_ne_true, List.singleton_append, readAll_cons _ _ hplain hrest.loose,
        takeChar_plain _ hreader hspecial]
      simp only [Reader.pushCode, hreader]
      rfl

theorem readsAs_of_sound {piece : Piece} (h : piece.Sound) : ReadsAs piece := by
  cases h with
  | folders => exact readsAs_folders
  | text => exact readsAs_text
  | name => exact readsAs_name
  | one => exact readsAs_one
  | oneOf hfirst hbody => exact readsAs_oneOf hfirst hbody
  | noneOf hbody => exact readsAs_noneOf hbody
  | char => exact readsAs_char

/-! ## Globs -/

theorem fresh_render {piece : Piece} (h : piece.Sound) (rest : List Char) :
    Fresh (piece.render ++ rest) := by
  cases h with
  | folders => exact fresh_cons (by decide) _
  | text => exact fresh_cons (by decide) _
  | name => exact fresh_cons (by decide) _
  | one => exact fresh_cons (by decide) _
  | oneOf => exact fresh_cons (show '[' ≠ backslash ∧ '[' ≠ '?' ∧ '[' ≠ '+' by decide) _
  | noneOf => exact fresh_cons (show '[' ≠ backslash ∧ '[' ≠ '?' ∧ '[' ≠ '+' by decide) _
  | @char c =>
    have hrender : Piece.render (.char c) = renderChar c := rfl
    rw [hrender, renderChar]
    cases hspecial : isSpecial c with
    | true => exact ⟨by simp, by simp [backslash], by simp [backslash]⟩
    | false =>
      exact fresh_cons ⟨ne_of_plain hspecial (by decide), ne_of_plain hspecial (by decide),
        ne_of_plain hspecial (by decide)⟩ rest

theorem fresh_nil : Fresh [] := ⟨List.cons_ne_nil _ _ |>.symm, nofun, nofun⟩

theorem nodes_cons (offset : Nat) (piece : Piece) (pieces : List Piece) :
    nodes offset (piece :: pieces) = piece.node offset >>= fun node =>
      (nodes (offset + piece.render.length) pieces).map (node :: ·) := by
  rw [nodes]
  cases piece.node offset with
  | error fault => rfl
  | ok node =>
    dsimp only [bind, Except.bind]
    cases nodes (offset + piece.render.length) pieces <;> rfl

theorem nodes_cons_ok {offset : Nat} {piece : Piece} {pieces : List Piece} {found : List Node}
    (h : nodes offset (piece :: pieces) = .ok found) :
    ∃ node more, piece.node offset = .ok node ∧
      nodes (offset + piece.render.length) pieces = .ok more ∧ found = node :: more := by
  rw [nodes_cons] at h
  cases hpiece : piece.node offset with
  | error fault => rw [hpiece] at h; cases h
  | ok node =>
    rw [hpiece] at h
    cases hmore : nodes (offset + piece.render.length) pieces with
    | error fault => simp only [bind, Except.bind, hmore] at h; cases h
    | ok more =>
      simp only [bind, Except.bind, hmore] at h
      cases h
      exact ⟨node, more, rfl, rfl, rfl⟩

/-- What reading the expression of some pieces comes to: the same fault as their compilation, or
items for the patterns they are compiled to. -/
def Agrees (reader : Reader) (outcome : Except Fault (List Node)) (step : Step) : Prop :=
  match outcome with
  | .error fault => step = .error fault
  | .ok nodes =>
    ∃ (items : List Item) (offset : Nat), items.map (·.node) = nodes ∧
      step = .ok ({ reader with
        frame := { reader.frame with items := items.reverse ++ reader.frame.items } }, .done offset)

theorem readAll_render {pieces : List Piece} (hpieces : ∀ piece ∈ pieces, piece.Sound)
    (reader : Reader) (fuel offset : Nat) (hreader : reader.frame.options = Options.none)
    (houter : reader.outer = []) (hfuel : (ofChars offset (render pieces)).size < fuel) :
    Agrees reader (nodes offset pieces) (readAll fuel reader (ofChars offset (render pieces))) := by
  induction pieces generalizing reader fuel offset with
  | nil =>
    obtain ⟨fuel, rfl⟩ : ∃ more, fuel = more + 1 := ⟨fuel - 1, by omega⟩
    obtain ⟨frame, outer, groups⟩ := reader
    cases houter
    exact ⟨[], offset, rfl, rfl⟩
  | cons piece pieces ih =>
    obtain ⟨hpiece, hmore⟩ := List.forall_mem_cons.1 hpieces
    have hrest : Fresh (render pieces) := by
      cases pieces with
      | nil => exact fresh_nil
      | cons next pieces => exact fresh_render (List.forall_mem_cons.1 hmore).1 _
    obtain ⟨width, shape, steps, hsteps, hread⟩ :=
      readsAs_of_sound hpiece reader offset (render pieces) hreader hrest
    have hshape : render (piece :: pieces) = piece.render ++ render pieces := rfl
    rw [hshape] at hfuel ⊢
    obtain ⟨fuel, rfl⟩ : ∃ more, fuel = more + steps := ⟨fuel - steps, by omega⟩
    rw [hread, nodes_cons]
    cases piece.node offset with
    | error fault => rfl
    | ok node =>
      have hind := ih hmore (reader.push node width shape) fuel (offset + piece.render.length)
        hreader houter (by omega)
      dsimp only [bind, Except.bind]
      cases hnodes : nodes (offset + piece.render.length) pieces with
      | error fault => rwa [hnodes] at hind
      | ok nodes =>
        rw [hnodes] at hind
        obtain ⟨items, behind, hitems, hstep⟩ := hind
        refine ⟨⟨node, width, shape⟩ :: items, behind, by rw [List.map_cons, hitems], ?_⟩
        rw [hstep]
        simp [Reader.push, Frame.push]

theorem limit_node {piece : Piece} {offset : Nat} {node : Node} (h : piece.node offset = .ok node) :
    node.limit? false = none := by
  cases piece with
  | oneOf negated body =>
    cases negated with
    | true =>
      rw [Piece.node] at h
      cases hmembers : members (offset + 2) ('/' :: body) <;> rw [hmembers] at h <;> cases h
      rfl
    | false =>
      rw [Piece.node] at h
      cases hmembers : members (offset + 1) body <;> rw [hmembers] at h <;> cases h
      rfl
  | folders | text | name | one | char => cases h; rfl

theorem limit_nodes {pieces : List Piece} {offset : Nat} {found : List Node}
    (h : nodes offset pieces = .ok found) : ∀ node ∈ found, node.limit? false = none := by
  induction pieces generalizing offset found with
  | nil => cases h; exact List.forall_mem_nil _
  | cons piece pieces ih =>
    obtain ⟨node, more, hpiece, hmore, rfl⟩ := nodes_cons_ok h
    exact List.forall_mem_cons.2 ⟨limit_node hpiece, ih hmore⟩

theorem limit_sequence {nodes : List Node} (h : ∀ node ∈ nodes, node.limit? false = none) :
    (Node.sequence nodes).limit? false = none := by
  induction nodes with
  | nil => rfl
  | cons node nodes ih =>
    obtain ⟨hnode, hnodes⟩ := List.forall_mem_cons.1 h
    cases nodes with
    | nil => exact hnode
    | cons other nodes =>
      rw [Node.sequence, Node.limit?, hnode, ih hnodes]
      · rfl
      · exact List.cons_ne_nil _ _

/-- The expression of a glob is read as the pattern the glob is compiled to. -/
theorem readPattern_render {pieces : List Piece} (hpieces : ∀ piece ∈ pieces, piece.Sound) :
    readPattern Options.none (render pieces) =
      (nodes 0 pieces).map fun nodes => (Node.sequence nodes, Options.none) := by
  have hsettled : (ofChars 0 (render pieces)).settled = .ok (ofChars 0 (render pieces)) := by
    cases pieces with
    | nil => rfl
    | cons piece pieces =>
      exact settled_ofChars _ (fresh_render (List.forall_mem_cons.1 hpieces).1 _).loose
  have hread := readAll_render hpieces (.start .none) ((ofChars 0 (render pieces)).size + 1) 0 rfl
    rfl (Nat.lt_succ_self _)
  rw [readPattern, hsettled]
  simp only [bind, Except.bind]
  cases hnodes : nodes 0 pieces with
  | error fault =>
    rw [hnodes] at hread
    rw [show readAll _ _ _ = _ from hread]
    rfl
  | ok found =>
    rw [hnodes] at hread
    obtain ⟨items, behind, hitems, hstep⟩ := hread
    rw [hstep]
    -- the whole expression is one branch, the items of which are the pieces
    have hitem : (Frame.item ⟨.whole, 0, .none, [], items.reverse ++ []⟩).node =
        Node.sequence found := by
      rw [← hitems]
      simp [Frame.item, Frame.allBranches, Frame.endBranch, Branch.either, Branch.ofItems,
        Node.alternatives]
    have hlimit := limit_sequence (limit_nodes hnodes)
    simp only [Reader.start, Frame.begun, hitem]
    rw [if_neg (by decide)]
    simp only [hlimit, Options.none]
    rfl

end CommitRules.Glob
