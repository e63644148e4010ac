import CommitRules.Regex.Matcher
import Mathlib.Computability.Language
import Mathlib.Data.List.Induction
import Mathlib.Data.List.TakeWhile

/-!
# CommitRules.Proofs.Matching

What patterns without groups and places match, said as languages. Backtracking tries the ways to
match in some order until what follows succeeds, so it succeeds if one of the ways does, whatever
the order.

* `Recognizes`: a pattern can go from a spot to another one exactly over the texts of a language.
* `recognizes_many`, `recognizes_optional`, `recognizes_sequence`: the patterns that repeat one
  character, may be left out, or follow one another.
* `matchesAll_iff`: such a pattern matches a whole text if the text is in its language.
-/

namespace CommitRules.Regex

/-- The spot behind `taken`, a text that starts at a spot and is followed by `rest`. -/
def Spot.past (spot : Spot) (taken rest : List Char) : Spot :=
  spot.moveTo ⟨taken.reverse ++ spot.cursor.before, rest, spot.cursor.offset + taken.length⟩

namespace Spot

variable (spot : Spot)

theorem past_nil : spot.past [] spot.cursor.after = spot := rfl

theorem past_past (first second rest rest' : List Char) :
    (spot.past first rest').past second rest = spot.past (first ++ second) rest := by
  simp [past, moveTo, Nat.add_assoc]

theorem past_back (taken rest : List Char) (c : Char) :
    (spot.past (taken ++ [c]) rest).moveTo (spot.past (taken ++ [c]) rest).cursor.back =
      spot.past taken (c :: rest) := by
  simp [past, moveTo, Cursor.back]

end Spot

/-- From any spot, a node can get over the texts of a language and over nothing else. -/
def Recognizes (node : Node) (language : Language Char) : Prop :=
  ∀ (next : Next) (spot : Spot), (run node next spot).isSome = true ↔
    ∃ taken rest, spot.cursor.after = taken ++ rest ∧ taken ∈ language ∧
      (next (spot.past taken rest)).isSome = true

/-- The texts of one character that a test accepts. -/
def single (test : CharTest) : Language Char := {text | ∃ c, text = [c] ∧ test.accepts c = true}

/-- The texts of characters that a test accepts. -/
def allOf (test : CharTest) : Language Char := {text | ∀ c ∈ text, test.accepts c = true}

theorem recognizes_empty : Recognizes .empty 1 := by
  intro next spot
  constructor
  · intro h
    exact ⟨[], spot.cursor.after, rfl, rfl, h⟩
  · rintro ⟨taken, rest, hafter, htaken, h⟩
    rw [Language.mem_one] at htaken
    subst htaken
    rw [List.nil_append] at hafter
    rw [← hafter, Spot.past_nil] at h
    exact h

theorem recognizes_one (test : CharTest) : Recognizes (.one test) (single test) := by
  intro next spot
  rw [run, Cursor.forward?]
  cases hafter : spot.cursor.after with
  | nil =>
    refine ⟨fun h => (Bool.false_ne_true h).elim, ?_⟩
    rintro ⟨taken, rest, hsplit, ⟨c, rfl, _⟩, _⟩
    cases hsplit
  | cons c rest =>
    have hpast : spot.past [c] rest =
        spot.moveTo ⟨c :: spot.cursor.before, rest, spot.cursor.offset + 1⟩ := rfl
    dsimp only
    constructor
    · intro h
      split at h
      · next haccepts => exact ⟨[c], rest, rfl, ⟨c, rfl, haccepts⟩, hpast ▸ h⟩
      · cases h
    · rintro ⟨taken, rest', hsplit, ⟨d, rfl, haccepts⟩, h⟩
      cases hsplit
      rw [if_pos haccepts, ← hpast]
      exact h

theorem recognizes_seq {first second : Node} {before behind : Language Char}
    (hfirst : Recognizes first before) (hsecond : Recognizes second behind) :
    Recognizes (.seq first second) (before * behind) := by
  intro next spot
  rw [run, hfirst]
  constructor
  · rintro ⟨a, rest, hafter, ha, h⟩
    obtain ⟨b, rest', hrest, hb, h⟩ := (hsecond _ _).1 h
    rw [Spot.past_past] at h
    have hsplit : rest = b ++ rest' := hrest
    exact ⟨a ++ b, rest', by rw [hafter, hsplit, List.append_assoc],
      Language.mem_mul.2 ⟨a, ha, b, hb, rfl⟩, h⟩
  · rintro ⟨taken, rest, hafter, htaken, h⟩
    obtain ⟨a, ha, b, hb, rfl⟩ := Language.mem_mul.1 htaken
    refine ⟨a, b ++ rest, by rw [hafter, List.append_assoc], ha, (hsecond _ _).2 ?_⟩
    exact ⟨b, rest, rfl, hb, by rw [Spot.past_past]; exact h⟩

/-- Patterns one after the other take up a text in as many parts. -/
theorem recognizes_sequence {nodes : List Node} {languages : List (Language Char)}
    (h : List.Forall₂ Recognizes nodes languages) :
    Recognizes (Node.sequence nodes) languages.prod := by
  induction h with
  | nil => exact recognizes_empty
  | @cons node language nodes languages hnode hnodes ih =>
    rw [List.prod_cons]
    cases hnodes with
    | nil => simpa [Node.sequence] using hnode
    | cons hother hothers => exact recognizes_seq hnode ih

/-! ## Repetitions -/

/-- Any number of rounds. -/
def anyCount : Bounds := ⟨0, none⟩

theorem skipAccepted_anyCount (test : CharTest) (before : List Char) (offset count : Nat)
    (text : List Char) :
    skipAccepted test anyCount before offset count text =
      (⟨(text.takeWhile test.accepts).reverse ++ before, text.dropWhile test.accepts,
          offset + (text.takeWhile test.accepts).length⟩,
        count + (text.takeWhile test.accepts).length) := by
  induction text generalizing before offset count with
  | nil => simp [skipAccepted]
  | cons c rest ih =>
    rw [skipAccepted]
    by_cases haccepts : test.accepts c = true
    · rw [if_pos (by simp [haccepts, anyCount, Bounds.allows]), ih]
      simp [haccepts, Nat.add_assoc, Nat.add_comm 1]
    · rw [if_neg (by simp [haccepts])]
      simp [haccepts]

/-- Giving back tries all the ways to take less of what has been taken. -/
theorem giveBack_past (next : Next) (spot : Spot) (taken rest : List Char) :
    (giveBack next (spot.past taken rest) taken.length).isSome = true ↔
      ∃ kept given, taken = kept ++ given ∧
        (next (spot.past kept (given ++ rest))).isSome = true := by
  induction taken using List.reverseRecOn generalizing rest with
  | nil =>
    constructor
    · intro h
      exact ⟨[], [], rfl, h⟩
    · rintro ⟨kept, given, hsplit, h⟩
      obtain ⟨rfl, rfl⟩ := List.append_eq_nil_iff.1 hsplit.symm
      exact h
  | append_singleton taken c ih =>
    rw [List.length_append, List.length_singleton, giveBack]
    cases hnext : next (spot.past (taken ++ [c]) rest) with
    | some result =>
      refine ⟨fun _ => ⟨taken ++ [c], [], by simp, ?_⟩, fun _ => rfl⟩
      rw [List.nil_append, hnext]
      rfl
    | none =>
      dsimp only
      rw [Spot.past_back, ih]
      constructor
      · rintro ⟨kept, given, rfl, h⟩
        exact ⟨kept, given ++ [c], by simp, by simpa using h⟩
      · rintro ⟨kept, given, hsplit, h⟩
        -- what is given back ends in `c`, or nothing is given back and `next` would have succeeded
        rcases List.eq_nil_or_concat given with rfl | ⟨front, d, rfl⟩
        · rw [List.append_nil] at hsplit
          rw [← hsplit, List.nil_append, hnext] at h
          cases h
        · rw [List.concat_eq_append, ← List.append_assoc] at hsplit
          obtain ⟨rfl, hlast⟩ := List.append_inj' hsplit rfl
          cases hlast
          exact ⟨kept, front, rfl, by simpa using h⟩

theorem recognizes_many (test : CharTest) :
    Recognizes (.span .greedy anyCount test) (allOf test) := by
  intro next spot
  have hspan : run (.span .greedy anyCount test) next spot =
      giveBack next (spot.past (spot.cursor.after.takeWhile test.accepts)
        (spot.cursor.after.dropWhile test.accepts))
        (spot.cursor.after.takeWhile test.accepts).length := by
    rw [run, runSpan]
    · simp only [skipAccepted_anyCount]
      simp [anyCount, Spot.past]
    · intro h; cases h
  rw [hspan, giveBack_past]
  constructor
  · rintro ⟨kept, given, htaken, h⟩
    refine ⟨kept, given ++ spot.cursor.after.dropWhile test.accepts, ?_, ?_, h⟩
    · rw [← List.append_assoc, ← htaken, List.takeWhile_append_dropWhile]
    · intro c hc
      have hmem : c ∈ spot.cursor.after.takeWhile test.accepts := by
        rw [htaken]
        exact List.mem_append_left _ hc
      exact List.mem_takeWhile_imp hmem
  · rintro ⟨taken, rest, hafter, htaken, h⟩
    refine ⟨taken, rest.takeWhile test.accepts, ?_, ?_⟩
    · rw [hafter, List.takeWhile_append_of_pos htaken]
    · rw [hafter, List.dropWhile_append_of_pos htaken, List.takeWhile_append_dropWhile]
      exact h

/-- At most one round. -/
def onceAtMost : Bounds := ⟨0, some 1⟩

theorem recognizes_optional {body : Node} {language : Language Char}
    (hbody : Recognizes body language) :
    Recognizes (.rounds .greedy onceAtMost body) (1 + language) := by
  intro next spot
  have hsecond : ∀ fuel last, runGreedy (run body) onceAtMost next (fuel + 1) 1 last = next :=
    fun fuel last => funext fun further => rfl
  have hrounds : run (.rounds .greedy onceAtMost body) next spot =
      (run body next spot).or (next spot) := by
    have hfirst : (onceAtMost.allows 0 && none != some spot.cursor.offset) = true := rfl
    have hleast : ¬ 0 < onceAtMost.least := Nat.lt_irrefl 0
    rw [run, roundsFrom, runGreedy, if_neg hleast, if_pos hfirst, Nat.zero_add, hsecond]
    cases run body next spot <;> rfl
  have hempty := recognizes_empty next spot
  rw [run] at hempty
  rw [hrounds, Option.isSome_or, Bool.or_eq_true, hbody next spot, hempty]
  constructor
  · rintro (⟨taken, rest, hafter, htaken, h⟩ | ⟨taken, rest, hafter, htaken, h⟩)
    · exact ⟨taken, rest, hafter, .inr htaken, h⟩
    · exact ⟨taken, rest, hafter, .inl htaken, h⟩
  · rintro ⟨taken, rest, hafter, htaken | htaken, h⟩
    · exact .inr ⟨taken, rest, hafter, htaken, h⟩
    · exact .inl ⟨taken, rest, hafter, htaken, h⟩

/-! ## Whole texts -/

theorem matchesAll_iff {node : Node} {language : Language Char} (h : Recognizes node language)
    (text : List Char) : node.matchesAll text = true ↔ text ∈ language := by
  rw [Node.matchesAll, h]
  constructor
  · rintro ⟨taken, rest, hafter, htaken, hend⟩
    have hrest : rest = [] := by
      cases rest with
      | nil => rfl
      | cons c rest => cases hend
    subst hrest
    have htext : text = taken := hafter.trans (List.append_nil taken)
    exact htext ▸ htaken
  · intro htext
    exact ⟨text, [], (List.append_nil text).symm, htext, rfl⟩

end CommitRules.Regex
