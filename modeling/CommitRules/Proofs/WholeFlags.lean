import CommitRules.Proofs.Grammar

/-!
# CommitRules.Proofs.WholeFlags

The flags in force for a whole pattern may be given from outside or stand at its start. Giving those
from outside as well that stand at the start changes nothing: until the last of them is read nothing
else has been, and from then on the flags in force are the same.

* `next_cases`: a step of reading moves on, or it does nothing but turn on flags.
* `readAll_given`: reading is the same with the flags given that it ends with.
* `readPattern_letters`: a pattern is read again from its text and its flag letters.
-/

namespace CommitRules.Regex

open CommitRules.Text

namespace Reader

/-- Takes one step, unless reading ends here. -/
def next (reader : Reader) (feed : Feed) : Except Fault (Option (Reader × Feed)) :=
  match feed with
  | .done _ | .loose _ =>
    if reader.outer.isEmpty then .ok none
    else .error (.malformed .unterminatedGroup reader.frame.offset)
  | .escape _ c rest => do
    let rest ← rest.settled
    let (escape, rest) ← takeEscape reader.groups c rest
    return some (reader.pushEscape escape, rest)
  | .char offset c rest =>
    if c = '|' then do return some (← takeBar reader feed rest)
    else if c = ')' then
      match reader.outer with
      | [] => .ok none
      | around :: outer => do return some (← closeGroup reader around outer rest)
    else do
      let rest ← rest.settled
      return some (← takeChar reader offset c rest)

/-- A step that begins or ends something, or adds an item. -/
inductive Moves (reader : Reader) : Reader → Prop where
  | item (item : Item) (items : List Item) :
      Moves reader { reader with frame := { reader.frame with items := item :: items } }
  | bar : Moves reader { reader with frame := reader.frame.endBranch }
  | enter (frame : Frame) (groups : Groups) :
      Moves reader ⟨frame, reader.frame :: reader.outer, groups⟩
  | close {around : Frame} {outer : List Frame} (item : Item) (groups : Groups)
      (houter : reader.outer = around :: outer) : Moves reader ⟨around.push item, outer, groups⟩

/-- The reader with flags turned on at the start of the pattern. -/
def turnOn (reader : Reader) (on : List Flag) : Reader :=
  { reader with frame := { reader.frame with options := reader.frame.options.addAll on } }

/-- The reader with the flags of some letters turned on from outside. -/
def given (reader : Reader) (letters : List Char) : Reader :=
  { reader with frame := { reader.frame with options := reader.frame.options.withLetters letters } }

end Reader

theorem readAll_succ (fuel : Nat) (reader : Reader) (feed : Feed) :
    readAll (fuel + 1) reader feed = reader.next feed >>= fun taken =>
      taken.elim (.ok (reader, feed)) fun taken => readAll fuel taken.1 taken.2 := by
  have hbind : ∀ step : Step,
      (step >>= fun taken => readAll fuel taken.1 taken.2) =
        (step >>= fun taken => pure (some taken)) >>= fun taken =>
          taken.elim (.ok (reader, feed)) fun taken => readAll fuel taken.1 taken.2 := by
    intro step
    cases step <;> rfl
  cases feed with
  | done offset => rw [readAll, Reader.next]; split <;> rfl
  | loose offset => rw [readAll, Reader.next]; split <;> rfl
  | escape offset c rest =>
    rw [readAll, Reader.next]
    cases rest.settled with
    | error fault => rfl
    | ok rest =>
      dsimp only [bind, Except.bind]
      cases takeEscape reader.groups c rest <;> rfl
  | char offset c rest =>
    rw [readAll, Reader.next]
    split
    · exact hbind _
    · split
      · cases reader.outer with
        | nil => rfl
        | cons around outer => exact hbind _
      · cases rest.settled with
        | error fault => rfl
        | ok rest => exact hbind _

/-- What a step comes to: it moves on, or it turns on some flags, which may only be done at the
start of the pattern, and it does the same if more flags are given from outside. -/
def Settles (step : Reader → Step) (reader after : Reader) (rest : Feed) : Prop :=
  reader.Moves after ∨
    ∃ on, (on = [] ∨ reader.frame.atStart = true) ∧ after = reader.turnOn on ∧
      ∀ letters, step (reader.given letters) = .ok (after.given letters, rest)

theorem add_withLetters (options : Options) (flag : Flag) (letters : List Char) :
    (options.add flag).withLetters letters = (options.withLetters letters).add flag := by
  cases flag <;> simp [Options.add, Options.withLetters]

theorem addAll_withLetters (options : Options) (on : List Flag) (letters : List Char) :
    (options.addAll on).withLetters letters = (options.withLetters letters).addAll on := by
  induction on generalizing options with
  | nil => rfl
  | cons flag on ih =>
    rw [Options.addAll, List.foldl_cons]
    exact (ih _).trans (congrArg (fun options => Options.addAll options on) (add_withLetters ..))

theorem turnOn_given (reader : Reader) (on : List Flag) (letters : List Char) :
    (reader.turnOn on).given letters = (reader.given letters).turnOn on := by
  simp only [Reader.turnOn, Reader.given, addAll_withLetters]

section Steps

variable {reader after : Reader} {offset : Nat} {feed rest : Feed}

theorem moves_openGroup {name : Option (List Char)}
    (h : openGroup reader offset name feed = .ok (after, rest)) : reader.Moves after := by
  unfold openGroup at h
  dsimp only at h
  split at h
  · cases h
  · cases h
    exact .enter _ _

theorem moves_takeNamedReference (h : takeNamedReference reader feed = .ok (after, rest)) :
    reader.Moves after := by
  obtain ⟨⟨name, feed'⟩, _, h⟩ := except_bind_iff.1 h
  dsimp only at h
  split at h
  · cases h
  · split at h
    · cases h
    · obtain ⟨_, _, h⟩ := except_bind_iff.1 h
      cases h
      exact .item _ _

theorem moves_takeNamed (h : takeNamed reader offset feed = .ok (after, rest)) :
    reader.Moves after := by
  unfold takeNamed at h
  split at h
  · cases h
  · obtain ⟨feed', _, h⟩ := except_bind_iff.1 h
    split at h
    · obtain ⟨⟨name, feed''⟩, _, h⟩ := except_bind_iff.1 h
      exact moves_openGroup h
    · split at h
      · exact moves_takeNamedReference h
      · cases h

theorem moves_takeBehind (h : takeBehind reader offset feed = .ok (after, rest)) :
    reader.Moves after := by
  unfold takeBehind at h
  split at h
  · cases h
  · obtain ⟨feed', _, h⟩ := except_bind_iff.1 h
    split at h
    · cases h
      exact .enter _ _
    · split at h
      · cases h
        exact .enter _ _
      · cases h

theorem moves_takeCondition (h : takeCondition reader offset feed = .ok (after, rest)) :
    reader.Moves after := by
  obtain ⟨⟨name, feed'⟩, _, h⟩ := except_bind_iff.1 h
  obtain ⟨⟨index, groups⟩, _, h⟩ := except_bind_iff.1 h
  obtain ⟨_, _, h⟩ := except_bind_iff.1 h
  cases h
  exact .enter _ _

theorem moves_takeRepetition {bounds : Bounds}
    (h : takeRepetition reader offset bounds feed = .ok (after, rest)) : reader.Moves after := by
  unfold takeRepetition at h
  split at h
  · cases h
  · split at h
    · cases h
    · cases h
    · obtain ⟨⟨isLazy, feed'⟩, _, h⟩ := except_bind_iff.1 h
      dsimp only at h
      split at h
      · cases h
        exact .item _ _
      · obtain ⟨⟨isPossessive, feed''⟩, _, h⟩ := except_bind_iff.1 h
        cases h
        exact .item _ _

theorem applyFlags_cases {flags : InlineFlags}
    (h : applyFlags reader offset flags feed = .ok (after, rest)) :
    Settles (applyFlags · offset flags feed) reader after rest := by
  cases flags with
  | group on off =>
    cases h
    exact .inl (.enter _ _)
  | whole on =>
    rw [applyFlags] at h
    split at h
    · next hstart =>
      cases h
      refine .inr ⟨on, .inr hstart, rfl, fun letters => ?_⟩
      have hgiven : (reader.given letters).frame.atStart = true := hstart
      have happly : applyFlags (reader.given letters) offset (.whole on) feed =
          .ok ((reader.given letters).turnOn on, feed) := if_pos hgiven
      exact happly.trans
        (congrArg (fun given => Except.ok (given, feed)) (turnOn_given reader on letters).symm)
    · cases h

theorem settles_bind {α : Type} {first : Except Fault α} {next : Reader → α → Step} {value : α}
    (hfirst : first = .ok value) (h : Settles (next · value) reader after rest) :
    Settles (fun reader => first >>= next reader) reader after rest := by
  subst hfirst
  exact h

theorem takeExtension_cases {piece : List Char}
    (h : takeExtension reader offset piece feed = .ok (after, rest)) :
    Settles (takeExtension · offset piece feed) reader after rest := by
  unfold takeExtension at h
  dsimp only at h
  -- by what follows the question mark, in the order P : > = ! < ( # - and the letter of a flag
  split at h
  · exact .inl (moves_takeNamed h)
  · cases h; exact .inl (.enter _ _)
  · cases h; exact .inl (.enter _ _)
  · cases h; exact .inl (.enter _ _)
  · cases h; exact .inl (.enter _ _)
  · exact .inl (moves_takeBehind h)
  · exact .inl (moves_takeCondition h)
  · obtain ⟨⟨closed, feed'⟩, hskip, h⟩ := except_bind_iff.1 h
    refine settles_bind hskip ?_
    dsimp only at h ⊢
    split at h
    · next hclosed =>
      cases h
      exact .inr ⟨[], .inl rfl, rfl, fun letters => if_pos hclosed⟩
    · cases h
  · obtain ⟨⟨flags, feed'⟩, hflags, h⟩ := except_bind_iff.1 h
    refine settles_bind hflags ?_
    exact applyFlags_cases h
  · split at h
    · next flag hflag =>
      have hsame : ∀ other, takeExtension other offset piece feed =
          takeFlagsOn [] flag feed (feed.size + 1) >>= fun taken =>
            applyFlags other offset taken.1 taken.2 := by
        intro other
        rw [takeExtension, hflag]
        all_goals assumption
      simp only [hsame]
      obtain ⟨⟨flags, feed'⟩, hflags, h⟩ := except_bind_iff.1 h
      refine settles_bind hflags ?_
      exact applyFlags_cases h
    · cases h

theorem takeOpening_cases (h : takeOpening reader offset feed = .ok (after, rest)) :
    Settles (takeOpening · offset feed) reader after rest := by
  obtain ⟨⟨special, feed'⟩, htaking, h⟩ := except_bind_iff.1 h
  refine settles_bind htaking ?_
  dsimp only at h ⊢
  split at h
  · exact .inl (moves_openGroup h)
  · next hspecial =>
    cases hnext : feed'.next? with
    | none => rw [hnext] at h; cases h
    | some next =>
      obtain ⟨piece, behind⟩ := next
      rw [hnext] at h
      obtain ⟨settled, hsettled, h⟩ := except_bind_iff.1 h
      have hextension := settles_bind hsettled (takeExtension_cases h)
      simp only [if_neg hspecial]
      exact hextension

theorem moves_push (node : Node) (width : Width) (shape : Shape) :
    reader.Moves (reader.push node width shape) := .item _ _

theorem moves_pushEscape (escape : Escape) : reader.Moves (reader.pushEscape escape) := by
  cases escape <;> exact .item _ _

theorem takeChar_opening (reader : Reader) (offset : Nat) (feed : Feed) :
    takeChar reader offset '(' feed = takeOpening reader offset feed := by
  simp [takeChar, isFiller, nameOpens]

theorem takeChar_cases {c : Char} (h : takeChar reader offset c feed = .ok (after, rest)) :
    Settles (takeChar · offset c feed) reader after rest := by
  have hverbose : ∀ letters, reader.frame.options.verbose = true →
      (reader.given letters).frame.options.verbose = true := by
    intro letters hv
    simp [Reader.given, Options.withLetters, hv]
  by_cases hopening : c = '('
  · subst hopening
    rw [takeChar_opening] at h
    simp only [takeChar_opening]
    exact takeOpening_cases h
  unfold takeChar at h
  dsimp only at h
  split at h
  · next hfiller =>
    -- white space of a verbose pattern is passed over, and so it is if more flags are given
    cases h
    refine .inr ⟨[], .inl rfl, rfl, fun letters => ?_⟩
    rw [Bool.and_eq_true] at hfiller
    simp only [takeChar, hverbose letters hfiller.1, hfiller.2]
    rfl
  · split at h
    · next hcomment =>
      -- and so are its comments
      simp only [Bool.and_eq_true, decide_eq_true_eq] at hcomment
      obtain ⟨hv, rfl⟩ := hcomment
      obtain ⟨⟨_, feed'⟩, hskip, h⟩ := except_bind_iff.1 h
      cases h
      refine .inr ⟨[], .inl rfl, rfl, fun letters => ?_⟩
      have hfiller : isFiller '#' = false := by decide
      simp only [takeChar, hverbose letters hv, hfiller, hskip]
      rfl
    · left
      split at h
      · obtain ⟨counts, _, h⟩ := except_bind_iff.1 h
        cases counts with
        | none => cases h; exact moves_push _ _ _
        | some counts => exact moves_takeRepetition h
      · -- by the character, in the order [ * + ? . ( ^ $ and any other one
        split at h
        · obtain ⟨⟨test, feed'⟩, _, h⟩ := except_bind_iff.1 h
          cases h
          exact moves_push _ _ _
        · exact moves_takeRepetition h
        · exact moves_takeRepetition h
        · exact moves_takeRepetition h
        · cases h; exact moves_push _ _ _
        · exact (hopening rfl).elim
        · cases h; exact moves_push _ _ _
        · cases h; exact moves_push _ _ _
        · cases h; exact moves_push _ _ _

theorem moves_takeBar {bar : Feed} (h : takeBar reader bar feed = .ok (after, rest)) :
    reader.Moves after := by
  unfold takeBar at h
  split at h
  · cases h
  · obtain ⟨settled, _, h⟩ := except_bind_iff.1 h
    cases h
    exact .bar

theorem moves_closeGroup {around : Frame} {outer : List Frame}
    (houter : reader.outer = around :: outer)
    (h : closeGroup reader around outer feed = .ok (after, rest)) : reader.Moves after := by
  obtain ⟨settled, _, h⟩ := except_bind_iff.1 h
  cases h
  exact .close _ _ houter

/-- What one step of reading comes to. -/
theorem next_cases (h : reader.next feed = .ok (some (after, rest))) :
    reader.Moves after ∨
      ∃ on, (on = [] ∨ reader.frame.atStart = true) ∧ after = reader.turnOn on ∧
        ∀ letters, (reader.given letters).next feed = .ok (some (after.given letters, rest)) := by
  cases feed with
  | done offset =>
    rw [Reader.next] at h
    split at h <;> cases h
  | loose offset =>
    rw [Reader.next] at h
    split at h <;> cases h
  | escape offset c behind =>
    obtain ⟨settled, _, h⟩ := except_bind_iff.1 h
    obtain ⟨⟨escape, further⟩, _, h⟩ := except_bind_iff.1 h
    cases h
    exact .inl (moves_pushEscape escape)
  | char offset c behind =>
    rw [Reader.next] at h
    split at h
    · obtain ⟨taken, htaken, h⟩ := except_bind_iff.1 h
      cases h
      exact .inl (moves_takeBar htaken)
    · next hbar =>
      split at h
      · split at h
        · cases h
        · next around outer houter =>
          obtain ⟨taken, htaken, h⟩ := except_bind_iff.1 h
          cases h
          exact .inl (moves_closeGroup houter htaken)
      · next hclosing =>
        obtain ⟨settled, hsettled, h⟩ := except_bind_iff.1 h
        obtain ⟨taken, htaken, h⟩ := except_bind_iff.1 h
        cases h
        rcases takeChar_cases htaken with hmoves | ⟨on, hon, hafter, hgiven⟩
        · exact .inl hmoves
        · refine .inr ⟨on, hon, hafter, fun letters => ?_⟩
          have htaken := hgiven letters
          dsimp only at htaken
          rw [Reader.next, if_neg hbar, if_neg hclosing, hsettled]
          simp only [bind, Except.bind, htaken]
          rfl

end Steps

/-! ## The flags of the whole pattern -/

namespace Reader

/-- The frame of the pattern as a whole. -/
def bottom (reader : Reader) : Frame :=
  (reader.frame :: reader.outer).getLast (List.cons_ne_nil _ _)

/-- Holds once something else than flags has been read. -/
def Begun (reader : Reader) : Prop := reader.outer = [] → reader.frame.atStart = false

theorem bottom_of_outer {reader : Reader} (h : reader.outer = []) :
    reader.bottom = reader.frame := by
  simp [bottom, h]

/-- Nothing but flags at the start changes the flags of the whole pattern. -/
theorem Moves.options {reader after : Reader} (h : reader.Moves after) :
    after.bottom.options = reader.bottom.options := by
  obtain ⟨frame, outer, groups⟩ := reader
  cases h with
  | item item items => cases outer <;> rfl
  | bar => cases outer <;> rfl
  | enter => rfl
  | close item groups houter =>
    cases houter
    rename_i outer
    cases outer <;> rfl

theorem Moves.begun {reader after : Reader} (h : reader.Moves after) : after.Begun := by
  intro houter
  cases h with
  | item item items => simp [Frame.atStart]
  | bar => simp [Frame.atStart, Frame.endBranch]
  | enter => cases houter
  | close => simp [Frame.atStart, Frame.push]

theorem turnOn_options (reader : Reader) (on : List Flag) :
    (reader.turnOn on).bottom.options =
      if reader.outer = [] then reader.bottom.options.addAll on else reader.bottom.options := by
  obtain ⟨frame, outer, groups⟩ := reader
  cases outer <;> rfl

end Reader

theorem outer_of_next {reader : Reader} {feed : Feed} (h : reader.next feed = .ok none) :
    reader.outer = [] := by
  cases feed with
  | done offset =>
    rw [Reader.next] at h
    split at h
    · next houter => exact List.isEmpty_iff.1 houter
    · cases h
  | loose offset =>
    rw [Reader.next] at h
    split at h
    · next houter => exact List.isEmpty_iff.1 houter
    · cases h
  | escape offset c rest =>
    obtain ⟨settled, _, h⟩ := except_bind_iff.1 h
    obtain ⟨taken, _, h⟩ := except_bind_iff.1 h
    cases h
  | char offset c rest =>
    rw [Reader.next] at h
    split at h
    · obtain ⟨taken, _, h⟩ := except_bind_iff.1 h
      cases h
    · split at h
      · split at h
        · next houter => exact houter
        · obtain ⟨taken, _, h⟩ := except_bind_iff.1 h
          cases h
      · obtain ⟨settled, _, h⟩ := except_bind_iff.1 h
        obtain ⟨taken, _, h⟩ := except_bind_iff.1 h
        cases h

/-- Reading ends outside of all groups, and with what every step preserves. -/
theorem readAll_preserves (holds : Reader → Prop)
    (hstep : ∀ {reader after : Reader} {feed rest : Feed},
      reader.next feed = .ok (some (after, rest)) → holds reader → holds after)
    {fuel : Nat} {reader final : Reader} {feed rest : Feed}
    (h : readAll fuel reader feed = .ok (final, rest)) (hreader : holds reader) :
    final.outer = [] ∧ holds final := by
  induction fuel generalizing reader feed with
  | zero => cases h
  | succ fuel ih =>
    rw [readAll_succ] at h
    obtain ⟨taken, hnext, h⟩ := except_bind_iff.1 h
    cases taken with
    | none =>
      cases h
      exact ⟨outer_of_next hnext, hreader⟩
    | some taken => exact ih h (hstep hnext hreader)

section Run

variable {fuel : Nat} {letters : List Char} {reader final : Reader} {feed rest : Feed}

/-- Once something has been read, the flags of the whole pattern are what they will be at its
end. -/
theorem options_of_begun (h : readAll fuel reader feed = .ok (final, rest))
    (hbegun : reader.Begun) : final.frame.options = reader.bottom.options := by
  obtain ⟨houter, -, hfinal⟩ : final.outer = [] ∧
      (final.Begun ∧ final.bottom.options = reader.bottom.options) := by
    refine readAll_preserves
      (fun other => other.Begun ∧ other.bottom.options = reader.bottom.options) ?_ h ⟨hbegun, rfl⟩
    rintro before after feed rest hnext ⟨hbefore, hoptions⟩
    rcases next_cases hnext with hmoves | ⟨on, hon, rfl, -⟩
    · exact ⟨hmoves.begun, hmoves.options.trans hoptions⟩
    · refine ⟨hbefore, ?_⟩
      rw [Reader.turnOn_options]
      split
      · next houter =>
        -- past the start no flags for the whole pattern are left
        rcases hon with rfl | hstart
        · exact hoptions
        · rw [hbefore houter] at hstart
          cases hstart
      · exact hoptions
  rw [← Reader.bottom_of_outer houter, hfinal]

/-- Flags given from outside stay on to the end. -/
theorem options_keep (h : readAll fuel reader feed = .ok (final, rest))
    (hletters : reader.bottom.options.withLetters letters = reader.bottom.options) :
    final.frame.options.withLetters letters = final.frame.options := by
  obtain ⟨houter, hfinal⟩ : final.outer = [] ∧
      final.bottom.options.withLetters letters = final.bottom.options := by
    refine readAll_preserves
      (fun other => other.bottom.options.withLetters letters = other.bottom.options) ?_ h hletters
    intro before after feed rest hnext hbefore
    rcases next_cases hnext with hmoves | ⟨on, -, rfl, -⟩
    · rw [hmoves.options, hbefore]
    · rw [Reader.turnOn_options]
      split
      · rw [addAll_withLetters, hbefore]
      · exact hbefore
  rw [← Reader.bottom_of_outer houter, hfinal]

theorem given_eq (h : reader.frame.options.withLetters letters = reader.frame.options) :
    reader.given letters = reader := by
  rw [Reader.given, h]

/-- Reading is the same if the flags that are in force at the end are given from the start. -/
theorem readAll_given (h : readAll fuel reader feed = .ok (final, rest))
    (houter : reader.outer = [])
    (hletters : final.frame.options.withLetters letters = final.frame.options) :
    readAll fuel (reader.given letters) feed = .ok (final, rest) := by
  induction fuel generalizing reader feed with
  | zero => cases h
  | succ fuel ih =>
    by_cases hsame : reader.frame.options.withLetters letters = reader.frame.options
    · rw [given_eq hsame]
      exact h
    rw [readAll_succ] at h ⊢
    obtain ⟨taken, hnext, h⟩ := except_bind_iff.1 h
    cases taken with
    | none =>
      cases h
      exact (hsame hletters).elim
    | some taken =>
      obtain ⟨after, feed'⟩ := taken
      rcases next_cases hnext with hmoves | ⟨on, -, rfl, hgiven⟩
      · -- the flags of this place would be those of the end
        have hfinal := options_of_begun h hmoves.begun
        rw [hmoves.options, Reader.bottom_of_outer houter] at hfinal
        rw [hfinal] at hletters
        exact (hsame hletters).elim
      · rw [hgiven letters]
        exact ih h houter

end Run

/-! ## Patterns -/

theorem contains_letters (options : Options) :
    options.letters.contains 'i' = options.ignoreCase ∧
      options.letters.contains 'm' = options.multiLine ∧
      options.letters.contains 's' = options.dotAll ∧
      options.letters.contains 'x' = options.verbose := by
  obtain ⟨ignoreCase, multiLine, dotAll, verbose, ascii, unicode, template⟩ := options
  cases ignoreCase <;> cases multiLine <;> cases dotAll <;> cases verbose <;>
    exact ⟨rfl, rfl, rfl, rfl⟩

theorem withLetters_letters (options : Options) :
    options.withLetters options.letters = options := by
  obtain ⟨hi, hm, hs, hx⟩ := contains_letters options
  simp only [Options.withLetters, hi, hm, hs, hx, Bool.or_self]

theorem letters_known (options : Options) : ∀ c ∈ options.letters, c ∈ knownLetters := by
  intro c hc
  simp only [Options.letters, List.mem_append] at hc
  rcases hc with ((hc | hc) | hc) | hc <;> split at hc <;> simp_all [knownLetters]

/-- Letters that add nothing to some flags add nothing to the letters of those flags. -/
theorem withLetters_of_kept {options : Options} {letters : List Char}
    (h : options.withLetters letters = options) (start : Options) :
    (start.withLetters letters).withLetters options.letters =
      start.withLetters options.letters := by
  have hor : ∀ a b c : Bool, (c || b) = c → ((a || b) || c) = (a || c) := by decide
  obtain ⟨hi, hm, hs, hx⟩ := contains_letters options
  simp only [Options.withLetters, hi, hm, hs, hx, hor _ _ _ (congrArg Options.ignoreCase h),
    hor _ _ _ (congrArg Options.multiLine h), hor _ _ _ (congrArg Options.dotAll h),
    hor _ _ _ (congrArg Options.verbose h)]

/-- A pattern is read again from its text and the letters of the flags in force for all of it. -/
theorem readPattern_letters {letters pattern : List Char} {node : Node} {options : Options}
    (h : readPattern (Options.none.withLetters letters) pattern = .ok (node, options)) :
    readPattern (Options.none.withLetters options.letters) pattern = .ok (node, options) := by
  obtain ⟨feed, hsettled, h⟩ := except_bind_iff.1 h
  obtain ⟨⟨final, behind⟩, hread, h⟩ := except_bind_iff.1 h
  have hoptions : final.frame.options = options := by
    dsimp only at h
    split at h
    · cases h
    · split at h
      · obtain ⟨_, _, h⟩ := except_bind_iff.1 h
        split at h <;> cases h
        rfl
      · cases h
  have hkept : options.withLetters letters = options := by
    have hstart : (Options.none.withLetters letters).withLetters letters =
        Options.none.withLetters letters := by
      simp [Options.withLetters]
    exact hoptions ▸ options_keep hread hstart
  have hagain : readAll (feed.size + 1) (.start (Options.none.withLetters options.letters)) feed =
      .ok (final, behind) := by
    rw [← withLetters_of_kept hkept]
    exact readAll_given hread rfl (hoptions ▸ withLetters_letters options)
  rw [readPattern, hsettled]
  simp only [bind, Except.bind, hagain]
  exact h

end CommitRules.Regex
