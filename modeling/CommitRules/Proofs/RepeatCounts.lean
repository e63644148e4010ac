import CommitRules.Proofs.FaultPlaces
import CommitRules.Proofs.Runs
import CommitRules.Proofs.WholeFlags

/-!
# CommitRules.Proofs.RepeatCounts

Counts of repetitions that are too large for a machine. Such a count is found when reading a pattern
comes to it, and nothing behind it matters any more.

* `takeCounts_too_large`: the texts in braces that hold such a count.
* `size_next`, `next_too_large`: what a step takes, and the only one that finds such a count.
* `readPattern_too_large`: a pattern is refused for one if and only if reading it gets that far.
-/

namespace CommitRules.Regex

/-! ## Counts in braces -/

/-- The pieces of a text and a feed behind them. -/
inductive Feed.Begins (rest : Feed) : List Char → Feed → Prop where
  | nil : Begins rest [] rest
  | cons (offset : Nat) (c : Char) {text : List Char} {feed : Feed} (h : Begins rest text feed) :
      Begins rest (c :: text) (.char offset c feed)

/-- A numeral that is read and found too large. -/
def IsHuge (digits : List Char) : Prop :=
  digits.length ≤ numeralLimit ∧ boundLimit ≤ decimalNumber digits

/-- Counts between braces, one of which is found too large. -/
inductive Overflows : List Char → Prop where
  | once {digits : List Char} (hdigits : ∀ c ∈ digits, isAsciiDigit c = true)
      (h : IsHuge digits) : Overflows digits
  | range {low high : List Char} (hlow : ∀ c ∈ low, isAsciiDigit c = true)
      (hhigh : ∀ c ∈ high, isAsciiDigit c = true) (hread : low.length ≤ numeralLimit)
      (h : IsHuge low ∨ IsHuge high) : Overflows (low ++ ',' :: high)

section Counts

variable {feed rest : Feed} {mark : Char} {text more : List Char}

theorem begins_cons {c : Char} :
    Feed.Begins rest (c :: text) feed ↔
      ∃ offset behind, feed = .char offset c behind ∧ Feed.Begins rest text behind := by
  constructor
  · intro h
    cases h with
    | cons offset c h => exact ⟨offset, _, rfl, h⟩
  · rintro ⟨offset, behind, rfl, h⟩
    exact .cons offset c h

theorem begins_append :
    Feed.Begins rest (text ++ more) feed ↔
      ∃ middle, Feed.Begins middle text feed ∧ Feed.Begins rest more middle := by
  induction text generalizing feed with
  | nil =>
    constructor
    · exact fun h => ⟨feed, .nil, h⟩
    · rintro ⟨middle, hmiddle, h⟩
      cases hmiddle
      exact h
  | cons c text ih =>
    simp only [List.cons_append, begins_cons, ih]
    constructor
    · rintro ⟨offset, behind, rfl, middle, hmiddle, h⟩
      exact ⟨middle, ⟨offset, behind, rfl, hmiddle⟩, h⟩
    · rintro ⟨middle, ⟨offset, behind, rfl, hmiddle⟩, h⟩
      exact ⟨offset, behind, rfl, middle, hmiddle, h⟩

theorem settled_of_begins (hsome : text ≠ []) (h : Feed.Begins rest text feed) :
    feed.settled = .ok feed := by
  cases h with
  | nil => exact (hsome rfl).elim
  | cons => rfl

theorem seen_of_settled {α : Type} {next : Except Fault α} (h : feed.settled = .ok feed) :
    feed.seen next = next := by
  cases feed with
  | loose offset => cases h
  | _ => rfl

theorem seen_ok {α : Type} {next : Except Fault α} {value : α} (h : feed.seen next = .ok value) :
    feed.settled = .ok feed ∧ next = .ok value := by
  cases feed with
  | loose offset => cases h
  | _ => exact ⟨rfl, h⟩

theorem taking_true_iff :
    feed.taking mark = .ok (true, rest) ↔
      rest.settled = .ok rest ∧ Feed.Begins rest [mark] feed := by
  rw [begins_cons]
  constructor
  · intro h
    cases feed with
    | char offset c behind =>
      rw [Feed.taking] at h
      split at h
      · next hc =>
        subst hc
        obtain ⟨hsettled, h⟩ := seen_ok h
        cases h
        exact ⟨hsettled, offset, _, rfl, .nil⟩
      · cases h
    | _ => cases h
  · rintro ⟨hsettled, offset, behind, rfl, hbehind⟩
    cases hbehind
    rw [Feed.taking, if_pos rfl, seen_of_settled hsettled]

theorem taking_false (h : feed.taking mark = .ok (false, rest)) : rest = feed := by
  cases feed with
  | char offset c behind =>
    rw [Feed.taking] at h
    split at h
    · cases (seen_ok h).2
    · cases h; rfl
  | _ => cases h; rfl

theorem taking_other {c : Char} (hc : c ≠ mark) (h : Feed.Begins rest (c :: text) feed) :
    feed.taking mark = .ok (false, feed) := by
  obtain ⟨offset, behind, rfl, -⟩ := begins_cons.1 h
  rw [Feed.taking, if_neg hc]

theorem takeAll_ok {holds : Char → Bool} {taken : List Char}
    (h : feed.takeAll holds = .ok (taken, rest)) :
    Feed.Begins rest taken feed ∧ ∀ c ∈ taken, holds c = true := by
  induction feed generalizing taken with
  | char offset c behind ih =>
    rw [Feed.takeAll] at h
    split at h
    · next hc =>
      obtain ⟨-, h⟩ := seen_ok h
      cases hbehind : behind.takeAll holds with
      | error fault => rw [hbehind] at h; cases h
      | ok result =>
        rw [hbehind] at h
        cases h
        obtain ⟨hbegins, hall⟩ := ih hbehind
        exact ⟨.cons offset c hbegins, List.forall_mem_cons.2 ⟨hc, hall⟩⟩
    · cases h
      exact ⟨.nil, List.forall_mem_nil _⟩
  | _ => cases h; exact ⟨.nil, List.forall_mem_nil _⟩

theorem takeAll_of_begins {holds : Char → Bool} {taken : List Char} {c : Char}
    (htaken : ∀ c ∈ taken, holds c = true) (hc : holds c = false)
    (h : Feed.Begins rest (taken ++ c :: text) feed) :
    ∃ middle, feed.takeAll holds = .ok (taken, middle) ∧ Feed.Begins rest (c :: text) middle := by
  induction taken generalizing feed with
  | nil =>
    obtain ⟨offset, behind, rfl, -⟩ := begins_cons.1 h
    refine ⟨_, ?_, h⟩
    simp [Feed.takeAll, hc]
  | cons first taken ih =>
    obtain ⟨hfirst, htaken⟩ := List.forall_mem_cons.1 htaken
    obtain ⟨offset, behind, rfl, hbehind⟩ := begins_cons.1 h
    obtain ⟨middle, hmiddle, hbegins⟩ := ih htaken hbehind
    refine ⟨middle, ?_, hbegins⟩
    rw [Feed.takeAll, if_pos hfirst, seen_of_settled (settled_of_begins (by simp) hbehind), hmiddle]
    rfl

/-! ## Numerals -/

theorem readBound_too_large {digits : List Char} :
    readBound digits = .error .boundTooLarge ↔ IsHuge digits := by
  unfold readBound IsHuge
  split
  · next hlong =>
    exact ⟨nofun, fun h => absurd h.1 (Nat.not_le.2 hlong)⟩
  · next hshort =>
    split
    · next hlarge => exact ⟨fun _ => ⟨Nat.not_lt.1 hshort, hlarge⟩, fun _ => rfl⟩
    · next hsmall => exact ⟨nofun, fun h => absurd h.2 hsmall⟩

theorem readBound_ok {digits : List Char} {number : Nat} (h : readBound digits = .ok number) :
    digits.length ≤ numeralLimit := by
  unfold readBound at h
  split at h
  · cases h
  · next hshort => exact Nat.not_lt.1 hshort

theorem not_isHuge_nil : ¬ IsHuge [] := fun h => absurd h.2 (by decide)

theorem Placed.ne_too_large {α : Type} {post : α → Prop} {outcome : Except Fault α}
    (h : Placed post outcome) : outcome ≠ .error .boundTooLarge := by
  rintro rfl
  cases h

/-- What a numeral begins does not close the braces at once. -/
theorem taking_numeral {digits : List Char} {c : Char}
    (hdigits : ∀ c ∈ digits, isAsciiDigit c = true) (hc : digits ≠ [] ∨ c ≠ nameCloses)
    (h : Feed.Begins rest (digits ++ c :: text) feed) :
    feed.taking nameCloses = .ok (false, feed) := by
  cases digits with
  | nil => exact taking_other (hc.resolve_left fun h => h rfl) h
  | cons first digits =>
    refine taking_other ?_ h
    rintro rfl
    exact absurd (hdigits _ List.mem_cons_self) (by decide)

/-- Reads the upper count when the lower one has been read. -/
def readUpper (opened rest : Feed) (high : List Char) (least : Nat) :
    Except Fault (Option (Bounds × Feed)) := do
  if high.isEmpty then return some (⟨least, none⟩, rest)
  let most ← readBound high
  if most < least then opened.refuse .badBounds
  return some (⟨least, some most⟩, rest)

/-- Goes on behind the numerals that stand in braces. -/
def closeCounts (opened : Feed) (low high : List Char) (feed : Feed) :
    Except Fault (Option (Bounds × Feed)) :=
  feed.taking nameCloses >>= fun closing =>
    if !closing.1 then pure none
    else if low.isEmpty then readUpper opened closing.2 high 0
    else readBound low >>= readUpper opened closing.2 high

theorem takeCounts_eq (feed : Feed) :
    takeCounts feed = feed.taking nameCloses >>= fun closing =>
      if closing.1 then pure none
      else feed.takeAll isAsciiDigit >>= fun low => low.2.taking ',' >>= fun comma =>
        if comma.1 then
          comma.2.takeAll isAsciiDigit >>= fun high => closeCounts feed low.1 high.1 high.2
        else closeCounts feed low.1 low.1 comma.2 := rfl

theorem readUpper_too_large {opened : Feed} {high : List Char} {least : Nat} :
    readUpper opened rest high least = .error .boundTooLarge ↔ IsHuge high := by
  unfold readUpper
  split
  · next hempty =>
    rw [List.isEmpty_iff.1 hempty]
    exact ⟨nofun, fun h => (not_isHuge_nil h).elim⟩
  · rw [← readBound_too_large]
    constructor
    · intro h
      rcases bind_error h with h | ⟨most, -, h⟩
      · exact h
      · dsimp only at h
        split at h <;> cases h
    · intro h
      rw [h]
      rfl

theorem closeCounts_too_large {opened : Feed} {low high : List Char} :
    closeCounts opened low high feed = .error .boundTooLarge ↔
      ∃ rest, rest.settled = .ok rest ∧ Feed.Begins rest [nameCloses] feed ∧
        low.length ≤ numeralLimit ∧ (IsHuge low ∨ IsHuge high) := by
  constructor
  · intro h
    rcases bind_error h with h | ⟨⟨closes, rest⟩, hcloses, h⟩
    · exact absurd h (takes_taking _ _).ne_too_large
    cases closes with
    | false => cases h
    | true =>
      obtain ⟨hsettled, hcloses⟩ := taking_true_iff.1 hcloses
      refine ⟨rest, hsettled, hcloses, ?_⟩
      cases low with
      | nil => exact ⟨Nat.zero_le _, .inr (readUpper_too_large.1 h)⟩
      | cons c low =>
        rcases bind_error h with h | ⟨least, hleast, h⟩
        · have hhuge := readBound_too_large.1 h
          exact ⟨hhuge.1, .inl hhuge⟩
        · exact ⟨readBound_ok hleast, .inr (readUpper_too_large.1 h)⟩
  · rintro ⟨rest, hsettled, hcloses, hread, hhuge⟩
    rw [closeCounts, taking_true_iff.2 ⟨hsettled, hcloses⟩]
    cases low with
    | nil => exact readUpper_too_large.2 (hhuge.resolve_left not_isHuge_nil)
    | cons c low =>
      by_cases hlow : IsHuge (c :: low)
      · simp [bind, Except.bind, readBound_too_large.2 hlow]
      · have hok : readBound (c :: low) = .ok (decimalNumber (c :: low)) := by
          have hsmall : ¬ boundLimit ≤ decimalNumber (c :: low) := fun h => hlow ⟨hread, h⟩
          rw [readBound, if_neg (Nat.not_lt.2 hread), if_neg hsmall]
        simp [bind, Except.bind, hok, readUpper_too_large.2 (hhuge.resolve_left hlow)]

theorem overflows_of_takeCounts (h : takeCounts feed = .error .boundTooLarge) :
    ∃ counts rest, Overflows counts ∧ rest.settled = .ok rest ∧
      Feed.Begins rest (counts ++ [nameCloses]) feed := by
  rw [takeCounts_eq] at h
  rcases bind_error h with h | ⟨⟨closesAtOnce, same⟩, hsame, h⟩
  · exact absurd h (takes_taking _ _).ne_too_large
  cases closesAtOnce with
  | true => cases h
  | false =>
    rcases bind_error h with h | ⟨⟨low, middle⟩, hlow, h⟩
    · exact absurd h (takes_takeAll _ _).ne_too_large
    obtain ⟨hlow, hlowDigits⟩ := takeAll_ok hlow
    rcases bind_error h with h | ⟨⟨comma, behind⟩, hcomma, h⟩
    · exact absurd h (takes_taking _ _).ne_too_large
    cases comma with
    | false =>
      cases taking_false hcomma
      obtain ⟨rest, hsettled, hcloses, -, hhuge⟩ := closeCounts_too_large.1 h
      exact ⟨low, rest, .once hlowDigits (or_self_iff.1 hhuge), hsettled,
        begins_append.2 ⟨_, hlow, hcloses⟩⟩
    | true =>
      rcases bind_error h with h | ⟨⟨high, last⟩, hhigh, h⟩
      · exact absurd h (takes_takeAll _ _).ne_too_large
      obtain ⟨hhigh, hhighDigits⟩ := takeAll_ok hhigh
      obtain ⟨-, hcomma⟩ := taking_true_iff.1 hcomma
      obtain ⟨rest, hsettled, hcloses, hread, hhuge⟩ := closeCounts_too_large.1 h
      refine ⟨_, rest, .range hlowDigits hhighDigits hread hhuge, hsettled, ?_⟩
      rw [List.append_assoc, List.cons_append, begins_append]
      exact ⟨middle, hlow, begins_append.2 ⟨behind, hcomma, begins_append.2 ⟨last, hhigh, hcloses⟩⟩⟩

theorem takeCounts_of_overflows {counts : List Char} (hcounts : Overflows counts)
    (hsettled : rest.settled = .ok rest) (hbegins : Feed.Begins rest (counts ++ [nameCloses]) feed) :
    takeCounts feed = .error .boundTooLarge := by
  rw [takeCounts_eq]
  have hbrace : isAsciiDigit nameCloses = false := by decide
  cases hcounts with
  | once hdigits hhuge =>
    have hsome : counts ≠ [] := fun hnil => not_isHuge_nil (hnil ▸ hhuge)
    obtain ⟨middle, hlow, hmiddle⟩ := takeAll_of_begins hdigits hbrace hbegins
    rw [taking_numeral hdigits (.inl hsome) hbegins]
    simp only [bind, Except.bind, hlow, taking_other (by decide : nameCloses ≠ ',') hmiddle]
    exact closeCounts_too_large.2 ⟨rest, hsettled, hmiddle, hhuge.1, .inl hhuge⟩
  | @range low high hlow hhigh hread hhuge =>
    rw [List.append_assoc, List.cons_append] at hbegins
    obtain ⟨middle, hlowRead, hmiddle⟩ := takeAll_of_begins hlow (by decide) hbegins
    obtain ⟨offset, behind, rfl, hbehind⟩ := begins_cons.1 hmiddle
    have hcomma : (Feed.char offset ',' behind).taking ',' = .ok (true, behind) :=
      taking_true_iff.2 ⟨settled_of_begins (by simp) hbehind, .cons offset ',' .nil⟩
    obtain ⟨last, hhighRead, hlast⟩ := takeAll_of_begins hhigh hbrace hbehind
    rw [taking_numeral hlow (.inr (by decide)) hbegins]
    simp only [bind, Except.bind, hlowRead, hcomma, hhighRead]
    exact closeCounts_too_large.2 ⟨rest, hsettled, hlast, hread, hhuge⟩

theorem takeCounts_too_large :
    takeCounts feed = .error .boundTooLarge ↔
      ∃ counts rest, Overflows counts ∧ rest.settled = .ok rest ∧
        Feed.Begins rest (counts ++ [nameCloses]) feed := by
  refine ⟨overflows_of_takeCounts, ?_⟩
  rintro ⟨counts, rest, hcounts, hsettled, hbegins⟩
  exact takeCounts_of_overflows hcounts hsettled hbegins

theorem rest_of_readUpper {opened behind : Feed} {high : List Char} {least : Nat} {bounds : Bounds}
    (h : readUpper opened behind high least = .ok (some (bounds, rest))) : rest = behind := by
  unfold readUpper at h
  split at h
  · cases h; rfl
  · obtain ⟨most, -, h⟩ := except_bind_iff.1 h
    dsimp only at h
    split at h <;> cases h
    rfl

theorem size_closeCounts {opened : Feed} {low high : List Char} {bounds : Bounds}
    (h : closeCounts opened low high feed = .ok (some (bounds, rest))) :
    rest.size ≤ feed.size := by
  obtain ⟨⟨closes, behind⟩, hcloses, h⟩ := except_bind_iff.1 h
  have hsize := (takes_taking nameCloses feed).size_le hcloses
  dsimp only at h
  split at h
  · cases h
  · split at h
    · exact rest_of_readUpper h ▸ hsize
    · obtain ⟨least, -, h⟩ := except_bind_iff.1 h
      exact rest_of_readUpper h ▸ hsize

theorem size_takeCounts {bounds : Bounds} (h : takeCounts feed = .ok (some (bounds, rest))) :
    rest.size ≤ feed.size := by
  rw [takeCounts_eq] at h
  obtain ⟨closing, -, h⟩ := except_bind_iff.1 h
  split at h
  · cases h
  · obtain ⟨⟨low, middle⟩, hlow, h⟩ := except_bind_iff.1 h
    obtain ⟨⟨comma, behind⟩, hcomma, h⟩ := except_bind_iff.1 h
    have hmiddle := (takes_takeAll isAsciiDigit feed).size_le hlow
    have hbehind := (takes_taking ',' middle).size_le hcomma
    dsimp only at h
    split at h
    · obtain ⟨⟨high, last⟩, hhigh, h⟩ := except_bind_iff.1 h
      have hlast := (takes_takeAll isAsciiDigit behind).size_le hhigh
      have hrest := size_closeCounts h
      dsimp only at hrest
      omega
    · have hrest := size_closeCounts h
      omega

end Counts

/-! ## Steps -/

section Steps

variable {reader after : Reader} {feed rest : Feed}

theorem takeChar_brace (reader : Reader) (offset : Nat) (feed : Feed) :
    takeChar reader offset nameOpens feed = takeCounts feed >>= fun counts =>
      match counts with
      | some (bounds, rest) => takeRepetition reader offset bounds rest
      | none => .ok (reader.pushCode nameOpens.toNat, feed) := by
  have hfiller : isFiller nameOpens = false := by decide
  have hcomment : nameOpens ≠ '#' := by decide
  simp only [takeChar, hfiller, hcomment]
  simp
  rfl

theorem size_takeChar {offset : Nat} {c : Char}
    (h : takeChar reader offset c feed = .ok (after, rest)) : rest.size ≤ feed.size := by
  by_cases hc : c = nameOpens
  · subst hc
    rw [takeChar_brace] at h
    obtain ⟨counts, hcounts, h⟩ := except_bind_iff.1 h
    cases counts with
    | none => cases h; exact Nat.le_refl _
    | some counts =>
      exact Nat.le_trans ((takes_takeRepetition _ _ _ _).size_le h) (size_takeCounts hcounts)
  · exact (takes_takeChar _ _ _ hc).size_le h

theorem settled_ok (h : feed.settled = .ok rest) : rest = feed := by
  cases feed <;> cases h <;> rfl

/-- Every step takes something. -/
theorem size_next (h : reader.next feed = .ok (some (after, rest))) : rest.size < feed.size := by
  cases feed with
  | done offset =>
    rw [Reader.next] at h
    split at h <;> cases h
  | loose offset =>
    rw [Reader.next] at h
    split at h <;> cases h
  | escape offset c behind =>
    obtain ⟨settled, hsettled, h⟩ := except_bind_iff.1 h
    obtain ⟨⟨escape, further⟩, hescape, h⟩ := except_bind_iff.1 h
    cases h
    cases settled_ok hsettled
    exact Nat.lt_succ_of_le ((takes_takeEscape _ _ _).size_le hescape)
  | char offset c behind =>
    rw [Reader.next] at h
    split at h
    · obtain ⟨taken, htaken, h⟩ := except_bind_iff.1 h
      cases h
      exact Nat.lt_succ_of_le ((takes_takeBar _ _ _).size_le htaken)
    · split at h
      · split at h
        · cases h
        · obtain ⟨taken, htaken, h⟩ := except_bind_iff.1 h
          cases h
          exact Nat.lt_succ_of_le ((takes_closeGroup _ _ _ _).size_le htaken)
      · obtain ⟨settled, hsettled, h⟩ := except_bind_iff.1 h
        obtain ⟨taken, htaken, h⟩ := except_bind_iff.1 h
        cases h
        cases settled_ok hsettled
        exact Nat.lt_succ_of_le (size_takeChar htaken)

theorem settled_too_large : feed.settled ≠ .error .boundTooLarge := by
  cases feed <;> nofun

theorem takeChar_too_large {offset : Nat} {c : Char} :
    takeChar reader offset c feed = .error .boundTooLarge ↔
      c = nameOpens ∧ takeCounts feed = .error .boundTooLarge := by
  constructor
  · intro h
    by_cases hc : c = nameOpens
    · subst hc
      rw [takeChar_brace] at h
      rcases bind_error h with h | ⟨counts, -, h⟩
      · exact ⟨rfl, h⟩
      · cases counts with
        | none => cases h
        | some counts => exact absurd h (takes_takeRepetition _ _ _ _).ne_too_large
    · exact absurd h (takes_takeChar _ _ _ hc).ne_too_large
  · rintro ⟨rfl, h⟩
    rw [takeChar_brace, h]
    rfl

/-- Nothing but counts in braces asks for too much. -/
theorem next_too_large :
    reader.next feed = .error .boundTooLarge ↔
      ∃ offset behind, feed = .char offset nameOpens behind ∧
        takeCounts behind = .error .boundTooLarge := by
  constructor
  · intro h
    cases feed with
    | done offset =>
      rw [Reader.next] at h
      split at h <;> cases h
    | loose offset =>
      rw [Reader.next] at h
      split at h <;> cases h
    | escape offset c behind =>
      rcases bind_error h with h | ⟨settled, -, h⟩
      · exact absurd h settled_too_large
      · rcases bind_error h with h | ⟨escape, -, h⟩
        · exact absurd h (takes_takeEscape _ _ _).ne_too_large
        · cases h
    | char offset c behind =>
      rw [Reader.next] at h
      split at h
      · rcases bind_error h with h | ⟨taken, -, h⟩
        · exact absurd h (takes_takeBar _ _ _).ne_too_large
        · cases h
      · split at h
        · split at h
          · cases h
          · rcases bind_error h with h | ⟨taken, -, h⟩
            · exact absurd h (takes_closeGroup _ _ _ _).ne_too_large
            · cases h
        · rcases bind_error h with h | ⟨settled, hsettled, h⟩
          · exact absurd h settled_too_large
          · cases settled_ok hsettled
            rcases bind_error h with h | ⟨taken, -, h⟩
            · obtain ⟨rfl, hcounts⟩ := takeChar_too_large.1 h
              exact ⟨offset, behind, rfl, hcounts⟩
            · cases h
  · rintro ⟨offset, behind, rfl, h⟩
    obtain ⟨counts, rest, -, -, hbegins⟩ := takeCounts_too_large.1 h
    have hsettled : behind.settled = .ok behind := settled_of_begins (by simp) hbegins
    have hstep : takeChar reader offset nameOpens behind = .error .boundTooLarge :=
      takeChar_too_large.2 ⟨rfl, h⟩
    rw [Reader.next, if_neg (by decide), if_neg (by decide), hsettled]
    simp only [bind, Except.bind, hstep]

end Steps

/-! ## Patterns -/

/-- The states that reading comes to from one of them, step by step. -/
inductive Reaches : Reader → Feed → Reader → Feed → Prop where
  | here (reader : Reader) (feed : Feed) : Reaches reader feed reader feed
  | step {reader after last : Reader} {feed rest behind : Feed}
      (hnext : reader.next feed = .ok (some (after, rest))) (h : Reaches after rest last behind) :
      Reaches reader feed last behind

/-- Reading a pattern comes to an opening brace with counts behind it that ask for too much. -/
inductive HasHugeCount (options : Options) (pattern : List Char) : Prop where
  | intro {reader : Reader} {offset : Nat} {feed rest : Feed} {counts : List Char}
      (hreach : Reaches (.start options) (.ofChars 0 pattern) reader (.char offset nameOpens feed))
      (hcounts : Overflows counts) (hrest : rest.settled = .ok rest)
      (hbegins : Feed.Begins rest (counts ++ [nameCloses]) feed)

theorem readAll_too_large {fuel : Nat} {reader : Reader} {feed : Feed} (hfuel : feed.size < fuel) :
    readAll fuel reader feed = .error .boundTooLarge ↔
      ∃ last offset behind, Reaches reader feed last (.char offset nameOpens behind) ∧
        takeCounts behind = .error .boundTooLarge := by
  constructor
  · intro h
    induction fuel generalizing reader feed with
    | zero => cases h
    | succ fuel ih =>
      rw [readAll_succ] at h
      rcases bind_error h with h | ⟨taken, hnext, h⟩
      · obtain ⟨offset, behind, rfl, hcounts⟩ := next_too_large.1 h
        exact ⟨reader, offset, behind, .here _ _, hcounts⟩
      · cases taken with
        | none => cases h
        | some taken =>
          have hsize := size_next hnext
          obtain ⟨last, offset, behind, hreach, h⟩ := ih (by omega) h
          exact ⟨last, offset, behind, .step hnext hreach, h⟩
  · rintro ⟨last, offset, behind, hreach, h⟩
    -- by induction on the steps; each takes something, so the fuel lasts to the end
    generalize hlast : Feed.char offset nameOpens behind = final at hreach
    induction hreach generalizing fuel with
    | here reader feed =>
      subst hlast
      obtain ⟨fuel, rfl⟩ := Nat.exists_eq_add_one_of_ne_zero (Nat.ne_of_gt (Nat.zero_lt_of_lt hfuel))
      rw [readAll_succ, next_too_large.2 ⟨offset, behind, rfl, h⟩]
      rfl
    | step hnext _ ih =>
      obtain ⟨fuel, rfl⟩ := Nat.exists_eq_add_one_of_ne_zero (Nat.ne_of_gt (Nat.zero_lt_of_lt hfuel))
      have hsize := size_next hnext
      rw [readAll_succ, hnext]
      exact ih (by omega) hlast

theorem readPattern_too_large {options : Options} {pattern : List Char} :
    readPattern options pattern = .error .boundTooLarge ↔ HasHugeCount options pattern := by
  constructor
  · intro h
    rcases bind_error h with h | ⟨feed, hsettled, h⟩
    · exact absurd h settled_too_large
    · cases settled_ok hsettled
      rcases bind_error h with h | ⟨⟨final, behind⟩, -, h⟩
      · obtain ⟨last, offset, behind, hreach, h⟩ :=
          (readAll_too_large (Nat.lt_succ_self _)).1 h
        obtain ⟨counts, rest, hcounts, hrest, hbegins⟩ := takeCounts_too_large.1 h
        exact ⟨hreach, hcounts, hrest, hbegins⟩
      · -- whatever is wrong with a pattern that was read to its end is something else
        dsimp only at h
        split at h
        · cases h
        · split at h
          · rcases bind_error h with h | ⟨_, -, h⟩
            · exact absurd h (placed_checkAsked _).ne_too_large
            · split at h <;> cases h
          · cases h
  · rintro ⟨hreach, hcounts, hrest, hbegins⟩
    -- from a loose backslash no step leads on
    have hsettled : (Feed.ofChars 0 pattern).settled = .ok (.ofChars 0 pattern) := by
      generalize Feed.ofChars 0 pattern = feed at hreach
      cases feed with
      | loose offset =>
        cases hreach with
        | step hnext _ =>
          rw [Reader.next] at hnext
          split at hnext <;> cases hnext
      | _ => rfl
    have hread := (readAll_too_large (Nat.lt_succ_self _)).2
      ⟨_, _, _, hreach, takeCounts_too_large.2 ⟨_, _, hcounts, hrest, hbegins⟩⟩
    rw [readPattern, hsettled]
    simp only [bind, Except.bind, hread]

/-- What is not yet closed comes later than the count, and a brace in a class begins none. -/
example :
    readPattern .none "(a\x7b,4294967295\x7d".toList = .error .boundTooLarge ∧
      (readPattern .none "[\x7b4294967295\x7d]".toList).toOption.isSome = true := by
  decide +kernel

end CommitRules.Regex
