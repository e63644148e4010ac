import CommitRules.Glob.Compile
import CommitRules.Regex.Reader
import Mathlib.Data.List.Basic

/-!
# CommitRules.Proofs.GlobBrackets

Brackets of a glob are written out as a class of a regular expression. Reading the class gives the
members that the brackets are compiled to, with the same fault at the same place.

* `takeItems_members`: what stands between the brackets of a class.
* `takeClass_plain`, `takeClass_negated`: the whole class.
-/

namespace CommitRules.Regex.Feed

open CommitRules.Text

variable {rest : List Char} {c mark : Char} (offset : Nat)

/-! ## Feeds -/

theorem ofChars_char (hc : c ≠ backslash) (rest : List Char) :
    ofChars offset (c :: rest) = .char offset c (ofChars (offset + 1) rest) := by
  rw [ofChars.eq_def]
  exact if_neg hc

theorem ofChars_escape (c : Char) (rest : List Char) :
    ofChars offset (backslash :: c :: rest) = .escape offset c (ofChars (offset + 2) rest) := by
  rw [ofChars.eq_def]
  exact if_pos rfl

theorem offset_ofChars (rest : List Char) : (ofChars offset rest).offset = offset := by
  unfold ofChars
  split
  · rfl
  · split
    · split <;> rfl
    · rfl

theorem seen_ofChars {α : Type} (h : rest ≠ [backslash]) (next : Except Fault α) :
    (ofChars offset rest).seen next = next := by
  unfold ofChars
  split
  · rfl
  · split
    · next hc =>
      split
      · exact absurd (hc ▸ rfl) h
      · rfl
    · rfl

theorem settled_ofChars (h : rest ≠ [backslash]) :
    (ofChars offset rest).settled = .ok (ofChars offset rest) := seen_ofChars offset h _

theorem taking_ofChars_cons (hmark : mark ≠ backslash) (h : rest ≠ [backslash]) :
    (ofChars offset (mark :: rest)).taking mark = .ok (true, ofChars (offset + 1) rest) := by
  rw [ofChars_char offset hmark, taking, if_pos rfl, seen_ofChars _ h]

theorem taking_ofChars_other (h : rest.head? ≠ some mark) :
    (ofChars offset rest).taking mark = .ok (false, ofChars offset rest) := by
  cases rest with
  | nil => rfl
  | cons c rest =>
    have hc : c ≠ mark := fun hc => h (hc ▸ rfl)
    by_cases hescape : c = backslash
    · subst hescape
      cases rest with
      | nil => rfl
      | cons d rest => rw [ofChars_escape]; rfl
    · rw [ofChars_char offset hescape, taking, if_neg hc]

end CommitRules.Regex.Feed

namespace CommitRules.Glob

open CommitRules.Regex CommitRules.Regex.Feed CommitRules.Text

/-! ## Classes -/

section Classes

variable {rest : List Char} {c low high : Char} {items : List ClassItem} (opened fuel offset : Nat)

theorem next?_renderMember (c : Char) (rest : List Char) :
    (ofChars offset (renderMember c ++ rest)).next? =
      some (renderMember c, ofChars (offset + (renderMember c).length) rest) := by
  unfold renderMember
  by_cases hc : c = backslash
  · subst hc
    rw [if_pos rfl]
    exact congrArg Feed.next? (ofChars_escape offset backslash rest)
  · rw [if_neg hc]
    exact congrArg Feed.next? (ofChars_char offset hc rest)

theorem takeItem_renderMember (c : Char) (feed : Feed) :
    takeItem (renderMember c) feed = .ok (.char c.toNat, feed) := by
  unfold renderMember
  by_cases hc : c = backslash
  · subst hc; rfl
  · rw [if_neg hc]; rfl

theorem cons_ne_loose (hc : c ≠ backslash) : c :: rest ≠ [backslash] := fun h =>
  hc (List.cons.inj h).1

theorem renderMember_append_ne (c : Char) (rest : List Char) :
    renderMember c ++ rest ≠ [backslash] := by
  unfold renderMember
  by_cases hc : c = backslash
  · simp [hc]
  · simp [hc]

theorem renderMember_ne_closing (h : c = ']' → items = []) :
    (decide (renderMember c = [']']) && !items.isEmpty) = false := by
  by_cases hc : c = ']'
  · simp [h hc]
  · unfold renderMember
    split <;> simp [hc]

/-- A closing bracket behind the first member ends the class. -/
theorem takeItems_close (hitems : items ≠ []) (hrest : rest ≠ [backslash]) :
    takeItems opened (fuel + 1) items (ofChars offset (']' :: rest)) =
      .ok (items.reverse, ofChars (offset + 1) rest) := by
  rw [ofChars_char offset (by decide), takeItems]
  simp only [Feed.next?, settled_ofChars _ hrest, bind, Except.bind]
  simp [hitems]
  rfl

theorem takeItems_char (hfirst : c = ']' → items = []) (hhyphen : rest.head? ≠ some '-')
    (hrest : rest ≠ [backslash]) :
    takeItems opened (fuel + 1) items (ofChars offset (renderMember c ++ rest)) =
      takeItems opened fuel (.char c.toNat :: items)
        (ofChars (offset + (renderMember c).length) rest) := by
  rw [takeItems, next?_renderMember]
  simp only [settled_ofChars _ hrest, bind, Except.bind, renderMember_ne_closing hfirst,
    takeItem_renderMember, taking_ofChars_other _ hhyphen]
  rfl

theorem takeItems_hyphen (hfirst : c = ']' → items = []) (hrest : rest ≠ [backslash]) :
    takeItems opened (fuel + 1) items (ofChars offset (renderMember c ++ '-' :: ']' :: rest)) =
      .ok (items.reverse ++ [.char c.toNat, .char 45],
        ofChars (offset + (renderMember c).length + 2) rest) := by
  rw [takeItems, next?_renderMember]
  have hsettled : '-' :: ']' :: rest ≠ [backslash] := cons_ne_loose (by decide)
  have hnext : ']' :: rest ≠ [backslash] := cons_ne_loose (by decide)
  simp only [settled_ofChars _ hsettled, bind, Except.bind, renderMember_ne_closing hfirst,
    takeItem_renderMember, taking_ofChars_cons _ (show '-' ≠ backslash by decide) hnext,
    ofChars_char _ (show ']' ≠ backslash by decide), Feed.next?, settled_ofChars _ hrest]
  simp [pure, Except.pure]

theorem takeItems_range (hfirst : low = ']' → items = []) (hhigh : high ≠ ']')
    (hrest : rest ≠ [backslash]) :
    takeItems opened (fuel + 1) items
        (ofChars offset (renderMember low ++ '-' :: (renderMember high ++ rest))) =
      if high < low then
        .error (.malformed (.badRange (renderMember low) (renderMember high)) offset)
      else
        takeItems opened fuel (.range low.toNat high.toNat :: items)
          (ofChars (offset + ((renderMember low).length + 1 + (renderMember high).length))
            rest) := by
  have hsettled : '-' :: (renderMember high ++ rest) ≠ [backslash] := cons_ne_loose (by decide)
  have hnext : renderMember high ++ rest ≠ [backslash] := renderMember_append_ne high rest
  have hclosing : renderMember high ≠ [']'] := by
    unfold renderMember
    split <;> simp [hhigh]
  rw [takeItems, next?_renderMember]
  simp only [settled_ofChars _ hsettled, bind, Except.bind, renderMember_ne_closing hfirst,
    takeItem_renderMember, taking_ofChars_cons _ (show '-' ≠ backslash by decide) hnext,
    next?_renderMember, settled_ofChars _ hrest]
  have hoffset : offset + (renderMember low).length + 1 + (renderMember high).length =
      offset + ((renderMember low).length + 1 + (renderMember high).length) := by omega
  rw [if_neg (by decide), if_neg hclosing, rangeItem, hoffset]
  have hlt : high.toNat < low.toNat ↔ high < low := Iff.rfl
  by_cases hbad : high < low
  · rw [if_pos hbad, if_pos (hlt.2 hbad), Feed.refuseBack, offset_ofChars, Nat.add_sub_cancel]
    rfl
  · rw [if_neg hbad, if_neg (mt hlt.1 hbad)]
    rfl

theorem members_char (hrange : ∀ high more, rest = '-' :: high :: more → False) :
    members offset (c :: rest) =
      (members (offset + (renderMember c).length) rest).map (.char c.toNat :: ·) := by
  rw [members]
  · cases members (offset + (renderMember c).length) rest <;> rfl
  · exact hrange

theorem members_range :
    members offset (low :: '-' :: high :: rest) =
      if high < low then
        .error (.malformed (.badRange (renderMember low) (renderMember high)) offset)
      else
        (members (offset + ((renderMember low).length + 1 + (renderMember high).length)) rest).map
          (.range low.toNat high.toNat :: ·) := by
  rw [members]
  split
  · rfl
  · dsimp only
    cases members (offset + ((renderMember low).length + 1 + (renderMember high).length)) rest <;>
      rfl

/-- A class that is written out does not end in a backslash that escapes nothing. -/
theorem flatMap_append_ne (body rest : List Char) :
    body.flatMap renderMember ++ ']' :: rest ≠ [backslash] := by
  cases body with
  | nil => exact cons_ne_loose (by decide)
  | cons c body =>
    rw [List.flatMap_cons, List.append_assoc]
    exact renderMember_append_ne c _

theorem head?_flatMap_ne {mark : Char} (hmark : mark ≠ ']') {body rest : List Char}
    (h : body.head? ≠ some mark) :
    (body.flatMap renderMember ++ ']' :: rest).head? ≠ some mark := by
  cases body with
  | nil => simpa using hmark.symm
  | cons c body =>
    have hc : c ≠ mark := fun hc => h (hc ▸ rfl)
    rw [List.flatMap_cons, renderMember]
    split
    · simpa using hc
    · simpa using hc

theorem flatMap_range (low high : Char) (body rest : List Char) :
    (low :: '-' :: high :: body).flatMap renderMember ++ ']' :: rest =
      renderMember low ++
        '-' :: (renderMember high ++ (body.flatMap renderMember ++ ']' :: rest)) := by
  have hyphen : renderMember '-' = ['-'] := by decide
  simp [hyphen]

variable (items) in
/-- What stands between brackets is read as the members it was written from. -/
theorem takeItems_members {body : List Char} (hclosing : ']' ∉ body.tail)
    (hfirst : body.head? = some ']' → items = []) (hsome : body = [] → items ≠ [])
    (hrest : rest ≠ [backslash]) (hfuel : body.length < fuel) :
    takeItems opened fuel items (ofChars offset (body.flatMap renderMember ++ ']' :: rest)) =
      (members offset body).map fun more =>
        (items.reverse ++ more,
          ofChars (offset + (body.flatMap renderMember).length + 1) rest) := by
  obtain ⟨fuel, rfl⟩ : ∃ more, fuel = more + 1 := ⟨fuel - 1, by omega⟩
  have hyphen : renderMember '-' = ['-'] := by decide
  induction offset, body using members.induct generalizing items fuel with
  | case1 offset =>
    rw [List.flatMap_nil, List.nil_append, takeItems_close _ _ _ (hsome rfl) hrest]
    simp [members, Except.map]
  | case2 offset low high body hbad =>
    rw [flatMap_range, takeItems_range _ _ _ (fun h => hfirst (h ▸ rfl)) (by aesop)
      (flatMap_append_ne body rest), members_range, if_pos hbad, if_pos hbad]
    rfl
  | case3 offset low high body hgood width ih =>
    simp only [List.length_cons] at hfuel
    obtain ⟨fuel, rfl⟩ : ∃ more, fuel = more + 1 := ⟨fuel - 1, by omega⟩
    have hbody : ']' ∉ body := by aesop
    simp only [width] at ih
    rw [flatMap_range, takeItems_range _ _ _ (fun h => hfirst (h ▸ rfl)) (by aesop)
      (flatMap_append_ne body rest), members_range, if_neg hgood, if_neg hgood,
      ih (.range low.toNat high.toNat :: items) (fun h => hbody (List.mem_of_mem_tail h))
        (fun h => absurd (List.mem_of_mem_head? h) hbody) (fun _ => List.cons_ne_nil _ _) fuel
        (by omega)]
    cases members (offset + ((renderMember low).length + 1 + (renderMember high).length)) body with
    | error fault => rfl
    | ok more => simp [Except.map, hyphen, Nat.add_assoc, Nat.add_comm, Nat.add_left_comm]
  | case4 offset c body hrange ih =>
    have hbody : ']' ∉ body := hclosing
    simp only [List.length_cons] at hfuel
    by_cases hdash : body.head? = some '-'
    · -- a hyphen behind the last character stands for itself
      obtain ⟨body, rfl⟩ := List.head?_eq_some_iff.1 hdash
      cases body with
      | cons high more => exact (hrange high more rfl).elim
      | nil =>
        have hshape : [c, '-'].flatMap renderMember ++ ']' :: rest =
            renderMember c ++ '-' :: ']' :: rest := by simp [hyphen]
        rw [hshape, takeItems_hyphen _ _ _ (fun h => hfirst (h ▸ rfl)) hrest]
        simp [members, hyphen, Except.map, bind, Except.bind, pure, Except.pure, Nat.add_assoc]
    · obtain ⟨fuel, rfl⟩ : ∃ more, fuel = more + 1 := ⟨fuel - 1, by omega⟩
      rw [List.flatMap_cons, List.append_assoc, takeItems_char _ _ _ (fun h => hfirst (h ▸ rfl))
        (head?_flatMap_ne (by decide) hdash) (flatMap_append_ne body rest), members_char _ hrange,
        ih (.char c.toNat :: items) (fun h => hbody (List.mem_of_mem_tail h))
          (fun h => absurd (List.mem_of_mem_head? h) hbody) (fun _ => List.cons_ne_nil _ _) fuel
          (by omega)]
      cases members (offset + (renderMember c).length) body with
      | error fault => rfl
      | ok more => simp [Except.map, Nat.add_assoc]

theorem size_flatMap (body tail : List Char) :
    (ofChars offset (body.flatMap renderMember ++ tail)).size =
      body.length + (ofChars (offset + (body.flatMap renderMember).length) tail).size := by
  induction body generalizing offset with
  | nil => simp
  | cons c body ih =>
    have hfirst : (ofChars offset (renderMember c ++ (body.flatMap renderMember ++ tail))).size =
        (ofChars (offset + (renderMember c).length)
          (body.flatMap renderMember ++ tail)).size + 1 := by
      unfold renderMember
      by_cases hc : c = backslash
      · subst hc
        rw [if_pos rfl]
        exact congrArg Feed.size (ofChars_escape offset backslash _)
      · rw [if_neg hc]
        exact congrArg Feed.size (ofChars_char offset hc _)
    rw [List.flatMap_cons, List.append_assoc, hfirst, ih, List.length_append, List.length_cons,
      Nat.add_assoc offset]
    omega

theorem takeClass_plain {body : List Char} {opened : Nat} (hclosing : ']' ∉ body.tail)
    (hbody : body ≠ []) (hmark : body.head? ≠ some '^') (hrest : rest ≠ [backslash]) :
    takeClass .exact false opened (ofChars offset (body.flatMap renderMember ++ ']' :: rest)) =
      (members offset body).map fun items =>
        (classTest .exact false false items,
          ofChars (offset + (body.flatMap renderMember).length + 1) rest) := by
  have hsize := size_flatMap offset body (']' :: rest)
  rw [takeClass, taking_ofChars_other _ (head?_flatMap_ne (by decide) hmark)]
  simp only [bind, Except.bind]
  rw [takeItems_members _ _ _ _ hclosing (fun _ => rfl) (fun h => absurd h hbody) hrest (by omega)]
  cases members offset body <;> rfl

theorem takeClass_negated {body : List Char} {opened : Nat} (hclosing : ']' ∉ body)
    (hbody : body ≠ []) (hrest : rest ≠ [backslash]) :
    takeClass .exact false opened
        (ofChars offset ('^' :: (body.flatMap renderMember ++ ']' :: rest))) =
      (members (offset + 1) body).map fun items =>
        (classTest .exact false true items,
          ofChars (offset + 1 + (body.flatMap renderMember).length + 1) rest) := by
  have hsize := size_flatMap (offset + 1) body (']' :: rest)
  rw [takeClass, taking_ofChars_cons _ (by decide) (flatMap_append_ne body rest)]
  simp only [bind, Except.bind]
  rw [takeItems_members _ _ _ _ (fun h => hclosing (List.mem_of_mem_tail h)) (fun _ => rfl)
    (fun h => absurd h hbody) hrest (by omega)]
  cases members (offset + 1) body <;> rfl

end Classes

end CommitRules.Glob
