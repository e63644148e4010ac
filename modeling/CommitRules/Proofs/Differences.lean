import CommitRules.Proofs.Places

/-!
# CommitRules.Proofs.Differences

Two trees that differ at some places, and below them, only.

* `follow_agrees`, `look_agrees`: a path that keeps away from these places leads to the same in both,
  or to nothing in both.
* `Agree.exists?_eq`, `Agree.read_eq`: so it is there in both or in none, and the same is read.
-/

namespace CommitRules.Files.Tree

/-! ## Trees -/

/-- Another tree is the same, but for what stands at some places and below them. -/
structure SameBut (places : List (List String)) (tree other : Tree) : Prop where
  cwd : other.cwd = tree.cwd
  entries : ∀ place, (∀ changed ∈ places, ¬ changed <+: place) →
    other.entry? place = tree.entry? place

theorem SameBut.mono {places more : List (List String)} {tree other : Tree}
    (h : SameBut places tree other) (hmore : places ⊆ more) : SameBut more tree other :=
  ⟨h.cwd, fun place hfree => h.entries place fun changed hchanged =>
    hfree changed (hmore hchanged)⟩

/-- Taking away what stands at a place changes nothing elsewhere. -/
theorem sameBut_remove (tree : Tree) (gone : List String) :
    SameBut [gone] tree (tree.remove gone) := by
  refine ⟨rfl, fun place hfree => ?_⟩
  have hgone : ¬ gone <+: place := hfree gone List.mem_cons_self
  obtain ⟨entries, cwd⟩ := tree
  unfold entry? remove
  congr 1
  dsimp only
  induction entries with
  | nil => rfl
  | cons entry entries ih =>
    obtain ⟨key, value⟩ := entry
    cases hkey : gone.isPrefixOf key with
    | true =>
      have hother : place ≠ key := fun he => hgone (he ▸ List.isPrefixOf_iff_prefix.1 hkey)
      rw [List.filter_cons_of_neg (by simp [hkey]), List.lookup_cons,
        beq_eq_false_iff_ne.2 hother]
      exact ih
    | false =>
      rw [List.filter_cons_of_pos (by simp [hkey]), List.lookup_cons, List.lookup_cons, ih]

/-- A path does not lead to one of several places, nor through a directory there. -/
def Avoids (tree : Tree) (places : List (List String)) (path : Path) : Prop :=
  ∀ way, way <+: path.parts → Path.resolveDots way ∈ places →
    way ≠ path.parts ∧ tree.entry? (Path.resolveDots way) ≠ some .directory

/-- Where no directories stand, a path avoids all places but the one it means. -/
theorem avoids_of_files {tree : Tree} {places : List (List String)} {path : Path}
    (hfiles : ∀ place ∈ places, tree.entry? place ≠ some .directory)
    (hpath : Path.resolveDots path.parts ∉ places) : tree.Avoids places path :=
  fun _ _ hchanged => ⟨fun he => hpath (he ▸ hchanged), hfiles _ hchanged⟩

/-! ## Lookups -/

/-- Nothing is found. -/
def Missing (found : Except SystemError Entry) : Prop :=
  found = .error .noEntry ∨ found = .error .notDirectory

/-- The same is found, or nothing either time. -/
def Agree (found found' : Except SystemError Entry) : Prop :=
  found = found' ∨ Missing found ∧ Missing found'

section Agree

variable {places : List (List String)} {tree other : Tree} {path : Path}

/-- The next part of a way leads nowhere unless a directory stands there. -/
theorem missing_of_not_directory {here rest : List String} {part : String}
    (hdirectory : tree.entry? (part :: here).reverse ≠ some .directory) (hrest : rest ≠ []) :
    Missing (match tree.entry? (part :: here).reverse with
      | none => .error .noEntry
      | some entry => tree.follow (part :: here) entry rest) := by
  cases hentry : tree.entry? (part :: here).reverse with
  | none => exact .inl rfl
  | some entry =>
    cases entry with
    | directory => exact absurd hentry hdirectory
    | file bytes =>
      cases rest with
      | nil => exact absurd rfl hrest
      | cons next rest => exact .inr rfl

/-- By induction on the rest of a path; what carries it is that the way so far has not come to a
place where the trees differ. -/
theorem follow_agrees (hsame : SameBut places tree other) (htree : tree.Avoids places path)
    (hother : other.Avoids places path) {done rest : List String}
    (hparts : path.parts = done ++ rest)
    (hfree : ∀ changed ∈ places, ¬ changed <+: (Path.ahead [] done).reverse) :
    Agree (tree.follow (Path.ahead [] done) .directory rest)
      (other.follow (Path.ahead [] done) .directory rest) := by
  induction rest generalizing done with
  | nil => exact .inl rfl
  | cons part rest ih =>
    have hnext : path.parts = (done ++ [part]) ++ rest := by simpa using hparts
    by_cases hdots : part = ".."
    · subst hdots
      have hback : Path.ahead [] (done ++ [".."]) = (Path.ahead [] done).drop 1 := by
        simp [Path.ahead, List.foldl_append]
      rw [follow_dots, follow_dots, ← hback]
      refine ih hnext fun changed hchanged hway => hfree changed hchanged (hway.trans ?_)
      rw [hback, List.reverse_prefix]
      exact List.drop_suffix 1 _
    · have hon : Path.ahead [] (done ++ [part]) = part :: Path.ahead [] done := by
        simp [Path.ahead, List.foldl_append, hdots]
      have hplace : Path.resolveDots (done ++ [part]) = (part :: Path.ahead [] done).reverse := by
        rw [Path.resolveDots_eq, hon]
      rw [follow_name hdots, follow_name hdots]
      split
      · exact .inl rfl
      · by_cases hchanged : (part :: Path.ahead [] done).reverse ∈ places
        · -- the way comes to such a place, and goes on behind it
          have hway : done ++ [part] <+: path.parts := ⟨rest, hnext.symm⟩
          obtain ⟨hwhole, hentry⟩ := htree _ hway (hplace ▸ hchanged)
          obtain ⟨-, hentry'⟩ := hother _ hway (hplace ▸ hchanged)
          have hrest : rest ≠ [] := fun he => hwhole (by rw [hnext, he, List.append_nil])
          rw [hplace] at hentry hentry'
          exact .inr ⟨missing_of_not_directory hentry hrest, missing_of_not_directory hentry' hrest⟩
        · have hfree' : ∀ changed ∈ places, ¬ changed <+: (part :: Path.ahead [] done).reverse := by
            intro changed hmem hway
            rw [List.reverse_cons, List.prefix_concat_iff] at hway
            rcases hway with rfl | hway
            · rw [List.reverse_cons] at hchanged
              exact hchanged hmem
            · exact hfree changed hmem hway
          rw [hsame.entries _ hfree']
          cases tree.entry? (part :: Path.ahead [] done).reverse with
          | none => exact .inl rfl
          | some entry =>
            cases entry with
            | file bytes => cases rest <;> exact .inl rfl
            | directory =>
              rw [← hon] at hfree' ⊢
              exact ih hnext hfree'

theorem look_agrees (hsame : SameBut places tree other) (hplaces : [] ∉ places)
    (habsolute : path.isAbsolute = true) (htree : tree.Avoids places path)
    (hother : other.Avoids places path) : Agree (tree.look path) (other.look path) := by
  rw [look_of_isAbsolute habsolute, look_of_isAbsolute habsolute]
  split
  · exact .inl rfl
  · have hroot : ∀ changed ∈ places, ¬ changed <+: (Path.ahead [] []).reverse :=
      fun changed hchanged hway => hplaces (List.prefix_nil.1 hway ▸ hchanged)
    exact @follow_agrees places tree other path hsame htree hother [] path.parts rfl hroot

theorem Agree.exists?_eq (h : Agree (tree.look path) (other.look path)) :
    tree.exists? path = other.exists? path := by
  have hmissing : ∀ {tree : Tree}, Missing (tree.look path) → tree.exists? path = .ok false := by
    intro tree h
    rcases h with h | h
    · rw [exists?, h]
      exact ite_self _
    · rw [exists?, h]
      exact ite_self _
  rcases h with h | ⟨h, h'⟩
  · rw [exists?, exists?, h]
  · rw [hmissing h, hmissing h']

theorem Agree.read_eq (h : Agree (tree.look path) (other.look path))
    (hexists : tree.exists? path = .ok true) : tree.read path = other.read path := by
  rcases h with h | ⟨h | h, -⟩
  · rw [read, read, h]
  · rw [exists?, h] at hexists
    split at hexists <;> cases hexists
  · rw [exists?, h] at hexists
    split at hexists <;> cases hexists

end Agree

end CommitRules.Files.Tree
