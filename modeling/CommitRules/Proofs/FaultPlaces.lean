import CommitRules.Regex.Reader

/-!
# CommitRules.Proofs.FaultPlaces

Reading a part of a pattern. Whatever reads one takes pieces of the pattern, so that no more are left
than there were, or finds something wrong at a place of it. Counts in braces are the exception: they
may also be such that no machine works with them.

* `Takes`: what reading a part comes to, with rules for `bind` and for faults.
* `takes_takeChar`: one lemma for each reader, up to the one for a character outside of classes.
-/

namespace CommitRules.Regex

open CommitRules.Text

/-- Either something for which `post` holds is read, or something is wrong at a place. -/
inductive Placed {α : Type} (post : α → Prop) : Except Fault α → Prop where
  | ok {value : α} (h : post value) : Placed post (.ok value)
  | malformed (cause : Cause) (offset : Nat) : Placed post (.error (.malformed cause offset))

/-- Whatever is read is taken from a feed: no more is left of it than there was. -/
def Takes {α : Type} (feed : Feed) (outcome : Except Fault (α × Feed)) : Prop :=
  Placed (fun taken => taken.2.size ≤ feed.size) outcome

section Rules

variable {α β : Type} {feed rest : Feed}

theorem Placed.bind {pre : α → Prop} {post : β → Prop} {first : Except Fault α}
    {next : α → Except Fault β} (hfirst : Placed pre first)
    (hnext : ∀ value, pre value → Placed post (next value)) : Placed post (first >>= next) := by
  cases hfirst with
  | ok h => exact hnext _ h
  | malformed cause offset => exact .malformed cause offset

theorem Takes.mono {outcome : Except Fault (α × Feed)} (hsize : rest.size ≤ feed.size)
    (h : Takes rest outcome) : Takes feed outcome := by
  cases h with
  | ok h => exact .ok (Nat.le_trans h hsize)
  | malformed cause offset => exact .malformed cause offset

theorem Takes.bind {first : Except Fault (α × Feed)} {next : α × Feed → Except Fault (β × Feed)}
    (hfirst : Takes feed first) (hnext : ∀ value rest, Takes rest (next (value, rest))) :
    Takes feed (first >>= next) :=
  Placed.bind hfirst fun taken hsize => (hnext taken.1 taken.2).mono hsize

theorem Takes.ok (value : α) (feed : Feed) : Takes feed (.ok (value, feed)) :=
  Placed.ok (Nat.le_refl _)

theorem Takes.size_le {outcome : Except Fault (α × Feed)} {value : α} (h : Takes feed outcome)
    (hok : outcome = .ok (value, rest)) : rest.size ≤ feed.size := by
  subst hok
  cases h with
  | ok h => exact h

theorem takes_refuse (other : Feed) (cause : Cause) :
    Takes feed (other.refuse cause : Except Fault (α × Feed)) := .malformed cause _

theorem takes_refuseBack (other : Feed) (less : Nat) (cause : Cause) :
    Takes feed (other.refuseBack less cause : Except Fault (α × Feed)) := .malformed cause _

theorem takes_seen {outcome : Except Fault (α × Feed)} (h : Takes feed outcome) :
    Takes feed (rest.seen outcome) := by
  unfold Feed.seen
  split
  · exact .malformed _ _
  · exact h

theorem takes_settled {next : Feed → Except Fault (α × Feed)} (h : Takes rest (next rest)) :
    Takes rest (rest.settled >>= next) := by
  cases rest with
  | loose offset => exact .malformed _ _
  | _ => exact h

theorem size_next? {piece : List Char} (h : feed.next? = some (piece, rest)) :
    rest.size < feed.size := by
  cases feed with
  | done offset => cases h
  | loose offset => cases h
  | char offset c behind => cases h; exact Nat.lt_succ_self _
  | escape offset c behind => cases h; exact Nat.lt_succ_self _

end Rules

/-! ## Feeds -/

section Feeds

variable (mark : Char) (holds : Char → Bool)

theorem takes_taking (feed : Feed) : Takes feed (feed.taking mark) := by
  unfold Feed.taking
  split
  · next rest =>
    split
    · exact takes_seen (.mono (Nat.le_succ _) (.ok true rest))
    · exact .ok _ _
  · exact .ok _ _

theorem takes_cons {feed : Feed} {c : Char} {outcome : Except Fault (List Char × Feed)}
    (h : Takes feed outcome) :
    Takes feed (outcome.map fun (taken, rest) => (c :: taken, rest)) := by
  cases h with
  | ok h => exact Placed.ok h
  | malformed cause offset => exact .malformed cause offset

theorem takes_takeUpTo (limit : Nat) (feed : Feed) : Takes feed (feed.takeUpTo holds limit) := by
  induction limit generalizing feed with
  | zero => unfold Feed.takeUpTo; exact .ok _ _
  | succ limit ih =>
    cases feed with
    | char offset c rest =>
      rw [Feed.takeUpTo]
      split
      · exact takes_seen (.mono (Nat.le_succ _) (takes_cons (ih rest)))
      · exact .ok _ _
    | done offset => exact .ok _ _
    | loose offset => exact .ok _ _
    | escape offset c rest => exact .ok _ _

theorem takes_takeAll (feed : Feed) : Takes feed (feed.takeAll holds) := by
  induction feed with
  | char offset c rest ih =>
    rw [Feed.takeAll]
    split
    · exact takes_seen (.mono (Nat.le_succ _) (takes_cons ih))
    · exact .ok _ _
  | done offset => exact .ok _ _
  | loose offset => exact .ok _ _
  | escape offset c rest => exact .ok _ _

theorem takes_takeName (what : String) (taken : List (List Char)) (feed : Feed) :
    Takes feed (feed.takeName mark what taken) := by
  induction feed generalizing taken with
  | char offset c rest ih =>
    refine takes_seen (.mono (Nat.le_succ _) ?_)
    split
    · split
      · exact takes_refuseBack _ _ _
      · exact .ok _ _
    · exact ih _
  | escape offset c rest ih => exact takes_seen (.mono (Nat.le_succ _) (ih _))
  | done offset => unfold Feed.takeName; split <;> exact .malformed _ _
  | loose offset => unfold Feed.takeName; split <;> exact .malformed _ _

theorem takes_skipPast (feed : Feed) : Takes feed (feed.skipPast mark) := by
  induction feed with
  | char offset c rest ih =>
    refine takes_seen (.mono (Nat.le_succ _) ?_)
    split
    · exact .ok _ _
    · exact ih
  | escape offset c rest ih => exact takes_seen (.mono (Nat.le_succ _) ih)
  | done offset => exact .ok _ _
  | loose offset => exact .ok _ _

end Feeds

/-! ## Groups -/

section References

variable (groups : Groups) (feed : Feed)

theorem placed_checkBehind (index : Nat) :
    Placed (fun _ => True) (groups.checkBehind index feed) := by
  unfold Groups.checkBehind
  split
  · exact .ok trivial
  · split
    · exact .malformed _ _
    · split
      · exact .malformed _ _
      · exact .ok trivial

theorem placed_checkAsked : Placed (fun _ => True) groups.checkAsked := by
  unfold Groups.checkAsked
  split
  · exact .malformed _ _
  · exact .ok trivial

theorem takes_takeGroupName (mark : Char) : Takes feed (takeGroupName mark feed) := by
  refine .bind (takes_takeName _ _ _ _) fun name rest => ?_
  dsimp only
  split
  · exact .ok _ _
  · exact takes_refuseBack _ _ _

/-! ## Escapes -/

theorem takes_takeHexCode (count largest : Nat) (c : Char) :
    Takes feed (takeHexCode count largest c feed) := by
  refine .bind (takes_takeUpTo _ _ _) fun digits rest => ?_
  dsimp only
  split
  · exact takes_refuseBack _ _ _
  · split
    · exact takes_refuseBack _ _ _
    · exact .ok _ _

theorem takes_takeCharName : Takes feed (takeCharName feed) := by
  refine .bind (takes_taking _ _) fun opens rest => ?_
  dsimp only
  split
  · refine .bind (takes_takeName _ _ _ _) fun name rest => ?_
    dsimp only
    split
    · exact .ok _ _
    · exact takes_refuseBack _ _ _
  · exact takes_refuse _ _

theorem takes_octalEscape (digits : List Char) : Takes feed (octalEscape digits feed) := by
  unfold octalEscape
  split
  · exact takes_refuseBack _ _ _
  · exact .ok _ _

theorem takes_groupReference (digits : List Char) :
    Takes feed (groupReference groups digits feed) := by
  unfold groupReference
  dsimp only
  split
  · exact takes_refuseBack _ _ _
  · split
    · exact takes_refuseBack _ _ _
    · exact Placed.bind (placed_checkBehind _ _ _) fun _ _ => Takes.ok _ _

theorem takes_takeReference (c : Char) : Takes feed (takeReference groups c feed) := by
  refine .bind (takes_takeUpTo _ _ _) fun second rest => ?_
  dsimp only
  split
  · refine .bind (takes_takeUpTo _ _ _) fun third rest => ?_
    dsimp only
    split
    · exact takes_octalEscape _ _
    · exact takes_groupReference _ _ _
  · exact takes_groupReference _ _ _

theorem takes_takeCommon (c : Char) : Takes feed (takeCommon c feed) := by
  unfold takeCommon
  split
  · exact takes_takeHexCode _ _ _ _
  · exact takes_takeHexCode _ _ _ _
  · exact takes_takeHexCode _ _ _ _
  · exact takes_takeCharName _
  · split
    · exact takes_refuseBack _ _ _
    · exact .ok _ _

theorem takes_takeEscape (c : Char) : Takes feed (takeEscape groups c feed) := by
  unfold takeEscape
  split
  · exact .ok _ _
  · split
    · exact .bind (takes_takeUpTo _ _ _) fun digits rest => .ok _ _
    · split
      · exact takes_takeReference _ _ _
      · exact takes_takeCommon _ _

theorem takes_takeClassEscape (c : Char) : Takes feed (takeClassEscape c feed) := by
  unfold takeClassEscape
  split
  · exact .ok _ _
  · split
    · exact .bind (takes_takeUpTo _ _ _) fun digits rest => takes_octalEscape _ _
    · exact takes_takeCommon _ _

end References

/-! ## Classes -/

theorem takes_takeItem (text : List Char) (feed : Feed) : Takes feed (takeItem text feed) := by
  unfold takeItem
  split
  · refine .bind (takes_takeClassEscape _ _) fun escape rest => ?_
    dsimp only
    split
    · exact .ok _ _
    · exact takes_refuseBack _ _ _
  · exact .ok _ _
  · exact .ok _ _

theorem placed_rangeItem (low high : List Char) (first last : ClassItem) (feed : Feed) :
    Placed (fun _ => True) (rangeItem low high first last feed) := by
  unfold rangeItem
  split
  · split
    · exact .malformed _ _
    · exact .ok trivial
  · exact .malformed _ _

theorem takes_takeItems (opened fuel : Nat) (items : List ClassItem) (feed : Feed) :
    Takes feed (takeItems opened fuel items feed) := by
  -- whether the fuel is enough does not matter: without it a class counts as unterminated
  induction fuel generalizing items feed with
  | zero => exact .malformed _ _
  | succ fuel ih =>
    rw [takeItems]
    split
    · exact .malformed _ _
    · next low rest hlow =>
      refine .mono (Nat.le_of_lt (size_next? hlow)) (takes_settled ?_)
      split
      · exact .ok _ _
      · refine .bind (takes_takeItem _ _) fun first rest => ?_
        refine .bind (takes_taking _ _) fun hyphen rest => ?_
        dsimp only
        split
        · exact ih _ _
        · split
          · exact .malformed _ _
          · next high rest hhigh =>
            refine .mono (Nat.le_of_lt (size_next? hhigh)) (takes_settled ?_)
            split
            · exact .ok _ _
            · refine .bind (takes_takeItem _ _) fun last rest => ?_
              exact Placed.bind (placed_rangeItem _ _ _ _ _) fun item _ => ih _ _

theorem takes_takeClass (folding : Folding) (ascii : Bool) (opened : Nat) (feed : Feed) :
    Takes feed (takeClass folding ascii opened feed) := by
  refine .bind (takes_taking _ _) fun negated rest => ?_
  exact .bind (takes_takeItems _ _ _ _) fun items rest => .ok _ _

/-! ## Flags -/

section Flags

variable (on off : List Flag) (flag : Flag) (feed : Feed)

theorem takes_refuseFlag {α : Type} (piece : List Char) (missing : String) (rest : Feed) :
    Takes feed (refuseFlag piece missing rest : Except Fault (α × Feed)) := by
  unfold refuseFlag
  split <;> exact takes_refuseBack _ _ _

theorem takes_takeFlagsOff (fuel : Nat) : Takes feed (takeFlagsOff on off flag feed fuel) := by
  induction fuel generalizing off flag feed with
  | zero => exact takes_refuse _ _
  | succ fuel ih =>
    rw [takeFlagsOff]
    split
    · exact takes_refuse _ _
    · dsimp only
      split
      · exact takes_refuse _ _
      · next piece rest hnext =>
        refine .mono (Nat.le_of_lt (size_next? hnext)) (takes_settled ?_)
        split
        · split
          · exact takes_refuseBack _ _ _
          · split
            · exact takes_refuseBack _ _ _
            · exact .ok _ _
        · split
          · exact ih _ _ _
          · exact takes_refuseFlag _ _ _ _
        · exact takes_refuseFlag _ _ _ _

theorem takes_takeFirstFlagOff : Takes feed (takeFirstFlagOff on feed) := by
  unfold takeFirstFlagOff
  split
  · exact takes_refuse _ _
  · next piece rest hnext =>
    refine .mono (Nat.le_of_lt (size_next? hnext)) (takes_settled ?_)
    split
    · split
      · exact takes_takeFlagsOff _ _ _ _ _
      · exact takes_refuseFlag _ _ _ _
    · exact takes_refuseFlag _ _ _ _

theorem takes_endFlagsOn (mark : Char) : Takes feed (endFlagsOn on mark feed) := by
  unfold endFlagsOn
  split
  · exact .ok _ _
  · split
    · exact takes_refuseBack _ _ _
    · split
      · exact takes_takeFirstFlagOff _ _
      · exact .ok _ _

theorem takes_takeFlagsOn (fuel : Nat) : Takes feed (takeFlagsOn on flag feed fuel) := by
  induction fuel generalizing on flag feed with
  | zero => exact takes_refuse _ _
  | succ fuel ih =>
    rw [takeFlagsOn]
    split
    · exact takes_refuse _ _
    · split
      · exact takes_refuse _ _
      · split
        · exact takes_refuse _ _
        · next piece rest hnext =>
          refine .mono (Nat.le_of_lt (size_next? hnext)) (takes_settled ?_)
          split
          · split
            · exact takes_endFlagsOn _ _ _
            · split
              · exact ih _ _ _
              · exact takes_refuseFlag _ _ _ _
          · exact takes_refuseFlag _ _ _ _

end Flags

/-! ## Parts of a pattern -/

section Parts

variable (reader : Reader) (offset : Nat) (feed : Feed)

theorem takes_takeRepetition (bounds : Bounds) :
    Takes feed (takeRepetition reader offset bounds feed) := by
  unfold takeRepetition
  split
  · exact .malformed _ _
  · split
    · exact .malformed _ _
    · exact .malformed _ _
    · refine .bind (takes_taking _ _) fun isLazy rest => ?_
      dsimp only
      split
      · exact .ok _ _
      · exact .bind (takes_taking _ _) fun isPossessive rest => .ok _ _

theorem takes_openGroup (name : Option (List Char)) :
    Takes feed (openGroup reader offset name feed) := by
  unfold openGroup
  dsimp only
  split
  · exact takes_refuseBack _ _ _
  · exact .ok _ _

theorem takes_takeNamedReference : Takes feed (takeNamedReference reader feed) := by
  refine .bind (takes_takeGroupName _ _) fun name rest => ?_
  dsimp only
  split
  · exact takes_refuseBack _ _ _
  · split
    · exact takes_refuseBack _ _ _
    · exact Placed.bind (placed_checkBehind _ _ _) fun _ _ => Takes.ok _ _

theorem takes_takeNamed : Takes feed (takeNamed reader offset feed) := by
  unfold takeNamed
  split
  · exact takes_refuse _ _
  · next piece rest hnext =>
    refine .mono (Nat.le_of_lt (size_next? hnext)) (takes_settled ?_)
    split
    · exact .bind (takes_takeGroupName _ _) fun name rest => takes_openGroup _ _ _ _
    · split
      · exact takes_takeNamedReference _ _
      · exact takes_refuseBack _ _ _

theorem takes_takeBehind : Takes feed (takeBehind reader offset feed) := by
  unfold takeBehind
  split
  · exact takes_refuse _ _
  · next piece rest hnext =>
    refine .mono (Nat.le_of_lt (size_next? hnext)) (takes_settled ?_)
    split
    · exact .ok _ _
    · split
      · exact .ok _ _
      · exact takes_refuseBack _ _ _

theorem placed_conditionGroup (groups : Groups) (name : List Char) :
    Placed (fun _ => True) (conditionGroup groups name feed) := by
  unfold conditionGroup
  dsimp only
  split
  · split
    · exact .ok trivial
    · exact .malformed _ _
  · split
    · exact .malformed _ _
    · split
      · exact .malformed _ _
      · split
        · exact .malformed _ _
        · exact .ok trivial

theorem takes_takeCondition : Takes feed (takeCondition reader offset feed) := by
  refine .bind (takes_takeName _ _ _ _) fun name rest => ?_
  refine Placed.bind (placed_conditionGroup _ _ _) fun found _ => ?_
  exact Placed.bind (placed_checkBehind _ _ _) fun _ _ => Takes.ok _ _

theorem takes_applyFlags (flags : InlineFlags) :
    Takes feed (applyFlags reader offset flags feed) := by
  unfold applyFlags
  split
  · split
    · exact .ok _ _
    · exact .malformed _ _
  · exact .ok _ _

theorem takes_takeExtension (piece : List Char) :
    Takes feed (takeExtension reader offset piece feed) := by
  unfold takeExtension
  dsimp only
  -- by what follows the question mark, in the order P : > = ! < ( # - and the letter of a flag
  split
  · exact takes_takeNamed _ _ _
  · exact .ok _ _
  · exact .ok _ _
  · exact .ok _ _
  · exact .ok _ _
  · exact takes_takeBehind _ _ _
  · exact takes_takeCondition _ _ _
  · refine .bind (takes_skipPast _ _) fun closed rest => ?_
    dsimp only
    split
    · exact .ok _ _
    · exact .malformed _ _
  · exact .bind (takes_takeFirstFlagOff _ _) fun flags rest => takes_applyFlags _ _ _ _
  · split
    · exact .bind (takes_takeFlagsOn _ _ _ _) fun flags rest => takes_applyFlags _ _ _ _
    · exact takes_refuseBack _ _ _

theorem takes_takeOpening : Takes feed (takeOpening reader offset feed) := by
  refine .bind (takes_taking _ _) fun special rest => ?_
  dsimp only
  split
  · exact takes_openGroup _ _ _ _
  · split
    · exact takes_refuse _ _
    · next piece rest hnext =>
      refine .mono (Nat.le_of_lt (size_next? hnext)) (takes_settled ?_)
      exact takes_takeExtension _ _ _ _

theorem takes_closeGroup (around : Frame) (outer : List Frame) :
    Takes feed (closeGroup reader around outer feed) := takes_settled (.ok _ _)

theorem takes_takeBar (bar : Feed) : Takes feed (takeBar reader bar feed) := by
  unfold takeBar
  split
  · exact takes_refuse _ _
  · exact takes_settled (.ok _ _)

/-- Only an opening brace, outside of classes and comments, can be wrong in another way than at its
place. -/
theorem takes_takeChar {c : Char} (hc : c ≠ nameOpens) :
    Takes feed (takeChar reader offset c feed) := by
  unfold takeChar
  dsimp only
  split
  · exact .ok _ _
  · split
    · exact .bind (takes_skipPast _ _) fun _ rest => .ok _ _
    · -- by the character, in the order [ * + ? . ( ^ $ and any other one
      split
      · exact .bind (takes_takeClass _ _ _ _) fun test rest => .ok _ _
      · exact takes_takeRepetition _ _ _ _
      · exact takes_takeRepetition _ _ _ _
      · exact takes_takeRepetition _ _ _ _
      · exact .ok _ _
      · exact takes_takeOpening _ _ _
      · exact .ok _ _
      · exact .ok _ _
      · exact .ok _ _

end Parts

end CommitRules.Regex
