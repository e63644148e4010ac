import CommitRules.Files.Tree
import CommitRules.Proofs.Names
import Mathlib.Data.List.Basic
import Mathlib.Data.List.Induction

/-!
# CommitRules.Proofs.Places

Places in a tree, by their parts from the root, and the paths that lead to them.

A tree is `Sound` if entries bear names that can be given to files, if there is a directory above
every entry, and if the working directory is there. In such a tree a path without double dots leads
to what stands at its place, and a path with them leads there if it leads anywhere.

* `Sound.entry?_of_follow`: what a path leads to stands at the place it means.
* `Sound.look_of_entry?`, `Sound.look_child`: what is found at a place, and below a directory.
* `entry?_put`: what stands where once an entry is added.
* `Sound.put`: adding an entry below a directory keeps a tree sound.
-/

namespace CommitRules.Files

open CommitRules.Text

namespace Path

/-- Where parts lead from a place, both places last part first. -/
def ahead (here parts : List String) : List String :=
  parts.foldl (fun done part => if part = ".." then done.drop 1 else part :: done) here

theorem resolveDots_eq (parts : List String) : resolveDots parts = (ahead [] parts).reverse := rfl

theorem ahead_name {part : String} (h : part ≠ "..") (here parts : List String) :
    ahead here (part :: parts) = ahead (part :: here) parts := by
  rw [ahead, List.foldl_cons, if_neg h, ahead]

theorem mem_ahead {here parts : List String} {part : String} (h : part ∈ ahead here parts) :
    part ∈ here ∨ part ∈ parts ∧ part ≠ ".." := by
  induction parts generalizing here with
  | nil => exact .inl h
  | cons first parts ih =>
    by_cases hfirst : first = ".."
    · subst hfirst
      rcases ih h with h | ⟨h, hne⟩
      · exact .inl (List.mem_of_mem_drop h)
      · exact .inr ⟨List.mem_cons_of_mem _ h, hne⟩
    · rw [ahead_name hfirst] at h
      rcases ih h with h | ⟨h, hne⟩
      · rcases List.mem_cons.1 h with rfl | h
        · exact .inr ⟨List.mem_cons_self, hfirst⟩
        · exact .inl h
      · exact .inr ⟨List.mem_cons_of_mem _ h, hne⟩

theorem mem_resolveDots {parts : List String} {part : String} (h : part ∈ resolveDots parts) :
    part ∈ parts ∧ part ≠ ".." :=
  (mem_ahead (List.mem_reverse.1 h)).resolve_left List.not_mem_nil

theorem ahead_of_not_mem {parts : List String} (h : ".." ∉ parts) (here : List String) :
    ahead here parts = parts.reverse ++ here := by
  induction parts generalizing here with
  | nil => rfl
  | cons first parts ih =>
    have hfirst : first ≠ ".." := fun he => h (he ▸ List.mem_cons_self)
    rw [ahead_name hfirst, ih fun hp => h (List.mem_cons_of_mem first hp)]
    simp

theorem resolveDots_of_not_mem {parts : List String} (h : ".." ∉ parts) :
    resolveDots parts = parts := by
  rw [resolveDots_eq, ahead_of_not_mem h]
  simp

theorem isAbsolute_join_resolve (cwd : List String) (repo path : Path) :
    ((repo.resolve cwd).join path).isAbsolute = true := by
  unfold join
  split
  · assumption
  · rfl

theorem hasNul_iff {path : Path} (h : path.Clean) :
    path.hasNul = true ↔ ∃ part ∈ path.parts, Char.ofNat 0 ∈ part.toList := by
  rw [hasNul, List.contains_iff_mem, ← List.count_pos_iff, ← count_parts (by decide) (by decide),
    ofText_text h, List.count_pos_iff, List.mem_flatMap]

end Path

namespace Tree

/-! ## Sound trees -/

/-- The names that a file can have. -/
structure IsName (part : String) : Prop where
  nonempty : part ≠ ""
  dot : part ≠ "."
  dots : part ≠ ".."
  slash : '/' ∉ part.toList
  nul : Char.ofNat 0 ∉ part.toList

instance (part : String) : Decidable (IsName part) :=
  decidable_of_iff (part ≠ "" ∧ part ≠ "." ∧ part ≠ ".." ∧ '/' ∉ part.toList ∧
      Char.ofNat 0 ∉ part.toList)
    ⟨fun ⟨h1, h2, h3, h4, h5⟩ => ⟨h1, h2, h3, h4, h5⟩,
      fun ⟨h1, h2, h3, h4, h5⟩ => ⟨h1, h2, h3, h4, h5⟩⟩

/-- What holds of a tree in a file system. -/
structure Sound (tree : Tree) : Prop where
  named : ∀ {place entry}, tree.entry? place = some entry →
    ∀ part ∈ place, IsName part ∧ part.utf8ByteSize ≤ partLimit
  above : ∀ {place part entry}, tree.entry? (place ++ [part]) = some entry →
    tree.entry? place = some .directory
  here : tree.entry? tree.cwd = some .directory

variable {tree : Tree}

theorem root_entry (tree : Tree) : tree.entry? [] = some .directory := rfl

theorem lookup_entries {place : List String} (h : place ≠ []) :
    tree.entry? place = tree.entries.lookup place := by
  rw [Tree.entry?, if_neg]
  simpa using h

theorem mem_entries {place : List String} {entry : Entry} (hplace : place ≠ [])
    (h : tree.entry? place = some entry) : (place, entry) ∈ tree.entries := by
  rw [lookup_entries hplace, List.lookup_eq_some_iff] at h
  obtain ⟨before, after, hentries, -⟩ := h
  rw [hentries]
  exact List.mem_append_right before List.mem_cons_self

theorem sound_of_entries
    (named : ∀ item ∈ tree.entries, ∀ part ∈ item.1, IsName part ∧ part.utf8ByteSize ≤ partLimit)
    (above : ∀ item ∈ tree.entries, tree.entry? item.1.dropLast = some .directory)
    (here : tree.entry? tree.cwd = some .directory) : tree.Sound where
  named := by
    intro place entry hentry part hpart
    exact named _ (mem_entries (List.ne_nil_of_mem hpart) hentry) part hpart
  above := by
    intro place part entry hentry
    simpa using above _ (mem_entries (by simp) hentry)
  here := here

namespace Sound

theorem not_mem_dots (h : tree.Sound) {place : List String} {entry : Entry}
    (hentry : tree.entry? place = some entry) : ".." ∉ place :=
  fun hmem => (h.named hentry ".." hmem).1.dots rfl

theorem above_append (h : tree.Sound) {place more : List String} {entry : Entry}
    (hentry : tree.entry? (place ++ more) = some entry) (hmore : more ≠ []) :
    tree.entry? place = some .directory := by
  induction more using List.reverseRecOn generalizing entry with
  | nil => exact (hmore rfl).elim
  | append_singleton more part ih =>
    rw [← List.append_assoc] at hentry
    have habove := h.above hentry
    by_cases hnil : more = []
    · rwa [hnil, List.append_nil] at habove
    · exact ih habove hnil

theorem entry?_of_prefix (h : tree.Sound) {place made : List String}
    (hmade : tree.entry? made = some .directory) (hway : place <+: made) :
    tree.entry? place = some .directory := by
  obtain ⟨more, rfl⟩ := hway
  by_cases hmore : more = []
  · rwa [hmore, List.append_nil] at hmade
  · exact h.above_append hmade hmore

end Sound

/-! ## Following a path -/

theorem follow_dots (here rest : List String) :
    tree.follow here .directory (".." :: rest) = tree.follow (here.drop 1) .directory rest := rfl

theorem follow_name {part : String} (h : part ≠ "..") (here rest : List String) :
    tree.follow here .directory (part :: rest) =
      if partLimit < part.utf8ByteSize then .error .nameTooLong
      else
        match tree.entry? (part :: here).reverse with
        | none => .error .noEntry
        | some entry => tree.follow (part :: here) entry rest :=
  (if_neg Bool.false_ne_true).trans (if_neg h)

theorem follow_append (here first second : List String) (entry : Entry) :
    tree.follow here entry (first ++ second) =
      match tree.follow here entry first with
      | .error error => .error error
      | .ok found => tree.follow (Path.ahead here first) found second := by
  induction first generalizing here entry with
  | nil => rfl
  | cons part first ih =>
    cases entry with
    | file bytes => rfl
    | directory =>
      by_cases hdots : part = ".."
      · subst hdots
        rw [List.cons_append, follow_dots, follow_dots, ih]
        rfl
      · rw [List.cons_append, follow_name hdots, follow_name hdots, Path.ahead_name hdots]
        split
        · rfl
        · cases tree.entry? (part :: here).reverse with
          | none => rfl
          | some found => exact ih (part :: here) found

theorem look_of_isAbsolute {path : Path} (h : path.isAbsolute = true) :
    tree.look path =
      if pathLimit ≤ path.text.utf8ByteSize then .error .nameTooLong
      else tree.follow [] .directory path.parts := by
  rw [look, h]
  rfl

namespace Sound

/-- What parts lead to stands at the place they mean. -/
theorem entry?_of_follow (h : tree.Sound) {here parts : List String} {entry found : Entry}
    (hhere : tree.entry? here.reverse = some entry)
    (hfollow : tree.follow here entry parts = .ok found) :
    tree.entry? (Path.ahead here parts).reverse = some found := by
  induction parts generalizing here entry with
  | nil =>
    cases hfollow
    exact hhere
  | cons part parts ih =>
    cases entry with
    | file bytes => cases hfollow
    | directory =>
      by_cases hdots : part = ".."
      · subst hdots
        refine ih ?_ hfollow
        cases here with
        | nil => rfl
        | cons last here => exact h.above (by simpa using hhere)
      · rw [follow_name hdots] at hfollow
        split at hfollow
        · cases hfollow
        · split at hfollow
          · cases hfollow
          · next other hother =>
            rw [Path.ahead_name hdots]
            exact ih hother hfollow

/-- The way to every entry is open. -/
theorem follow_of_entry? (h : tree.Sound) {here parts : List String} {entry found : Entry}
    (hhere : tree.entry? here.reverse = some entry)
    (hfound : tree.entry? (here.reverse ++ parts) = some found) :
    tree.follow here entry parts = .ok found := by
  induction parts generalizing here entry with
  | nil =>
    rw [List.append_nil, hhere] at hfound
    cases hfound
    rfl
  | cons part parts ih =>
    have hpart := h.named hfound part (by simp)
    cases h.above_append hfound (List.cons_ne_nil _ _) ▸ hhere
    have hnext : here.reverse ++ part :: parts = (part :: here).reverse ++ parts := by simp
    rw [hnext] at hfound
    rw [follow_name hpart.1.dots, if_neg (Nat.not_lt.2 hpart.2)]
    cases hentry : tree.entry? (part :: here).reverse with
    | some other => exact ih hentry hfound
    | none =>
      -- what comes next is what is found, or a directory above it
      by_cases hlast : parts = []
      · rw [hlast, List.append_nil, hentry] at hfound
        cases hfound
      · rw [h.above_append hfound hlast] at hentry
        cases hentry

theorem look_of_entry? (h : tree.Sound) {place : List String} {entry : Entry}
    (hentry : tree.entry? place = some entry) :
    tree.look ⟨.root, place⟩ =
      if pathLimit ≤ (Path.text ⟨.root, place⟩).utf8ByteSize then .error .nameTooLong
      else .ok entry := by
  have hfollow : tree.follow [] .directory place = .ok entry :=
    h.follow_of_entry? (root_entry tree) hentry
  rw [look_of_isAbsolute rfl, hfollow]

/-- What a path leads to stands at the place it means, and a file there can be read. -/
theorem read_of_exists (h : tree.Sound) {path : Path} {bytes : List UInt8}
    (habsolute : path.isAbsolute = true) (hexists : tree.exists? path = .ok true)
    (hentry : tree.entry? (Path.resolveDots path.parts) = some (.file bytes)) :
    tree.read path = .ok bytes := by
  rw [exists?] at hexists
  rw [read]
  split at hexists
  · cases hexists
  · next hnul =>
    rw [if_neg hnul]
    cases hlook : tree.look path with
    | error error =>
      rw [hlook] at hexists
      cases error <;> cases hexists
    | ok found =>
      rw [look_of_isAbsolute habsolute] at hlook
      split at hlook
      · cases hlook
      · have hroot : tree.entry? (List.reverse []) = some .directory := root_entry tree
        have hfound := h.entry?_of_follow hroot hlook
        rw [← Path.resolveDots_eq, hentry] at hfound
        cases hfound
        rfl

theorem look_child (h : tree.Sound) {made : List String} {part : String}
    (hmade : tree.entry? made = some .directory) (hpart : part ≠ "..") :
    tree.look ⟨.root, made ++ [part]⟩ =
      if pathLimit ≤ (Path.text ⟨.root, made ++ [part]⟩).utf8ByteSize then .error .nameTooLong
      else if partLimit < part.utf8ByteSize then .error .nameTooLong
      else
        match tree.entry? (made ++ [part]) with
        | none => .error .noEntry
        | some entry => .ok entry := by
  have hfollow : tree.follow [] .directory made = .ok .directory :=
    h.follow_of_entry? (root_entry tree) hmade
  rw [look_of_isAbsolute rfl, follow_append, hfollow]
  dsimp only
  rw [Path.ahead_of_not_mem (h.not_mem_dots hmade), follow_name hpart, List.append_nil,
    List.reverse_cons, List.reverse_reverse]
  rfl

theorem entry?_of_look_child (h : tree.Sound) {made : List String} {part : String} {entry : Entry}
    (hmade : tree.entry? made = some .directory) (hpart : part ≠ "..")
    (hlook : tree.look ⟨.root, made ++ [part]⟩ = .ok entry) :
    tree.entry? (made ++ [part]) = some entry := by
  rw [h.look_child hmade hpart] at hlook
  split at hlook
  · cases hlook
  · split at hlook
    · cases hlook
    · split at hlook
      · cases hlook
      · next hentry =>
        cases hlook
        exact hentry

theorem missing_of_look_child (h : tree.Sound) {made : List String} {part : String}
    (hmade : tree.entry? made = some .directory) (hpart : part ≠ "..")
    (hlook : tree.look ⟨.root, made ++ [part]⟩ = .error .noEntry) :
    tree.entry? (made ++ [part]) = none ∧ part.utf8ByteSize ≤ partLimit := by
  rw [h.look_child hmade hpart] at hlook
  split at hlook
  · cases hlook
  · split at hlook
    · cases hlook
    · next hlimit =>
      split at hlook
      · next hentry => exact ⟨hentry, Nat.le_of_not_lt hlimit⟩
      · cases hlook

theorem hasNul_eq_false (h : tree.Sound) {place : List String} {entry : Entry}
    (hentry : tree.entry? place = some entry) : Path.hasNul ⟨.root, place⟩ = false := by
  have hclean : Path.Clean ⟨.root, place⟩ := fun part hpart =>
    have hname := (h.named hentry part hpart).1
    ⟨hname.nonempty, hname.dot, hname.slash⟩
  rw [← Bool.not_eq_true, Path.hasNul_iff hclean]
  rintro ⟨part, hpart, hnul⟩
  exact (h.named hentry part hpart).1.nul hnul

end Sound

/-! ## Adding an entry -/

theorem mem_ways {parts way : List String} :
    (way ∈ (List.range parts.length).map fun n => parts.take n) ↔
      way <+: parts ∧ way ≠ parts := by
  rw [List.mem_map]
  constructor
  · rintro ⟨n, hn, rfl⟩
    refine ⟨List.take_prefix n parts, fun he => ?_⟩
    have hlength := congrArg List.length he
    rw [List.length_take] at hlength
    have hn := List.mem_range.1 hn
    omega
  · rintro ⟨hway, hne⟩
    refine ⟨way.length, List.mem_range.2 ?_, (List.prefix_iff_eq_take.1 hway).symm⟩
    exact Nat.lt_of_le_of_ne hway.length_le fun hl => hne (hway.eq_of_length hl)

theorem lookup_directories (ways : List (List String)) (place : List String) :
    (ways.map fun way => (way, Entry.directory)).lookup place =
      if place ∈ ways then some .directory else none := by
  induction ways with
  | nil => rfl
  | cons way ways ih =>
    rw [List.map_cons, List.lookup_cons, ih]
    by_cases h : place = way
    · simp [h]
    · simp [h, beq_eq_false_iff_ne.2 h]

theorem lookup_filter_ne {entries : List (List String × Entry)} {place other : List String}
    (h : place ≠ other) :
    (entries.filter fun entry => entry.1 != other).lookup place = entries.lookup place := by
  induction entries with
  | nil => rfl
  | cons entry entries ih =>
    obtain ⟨key, value⟩ := entry
    by_cases hkey : key = other
    · subst hkey
      simp [List.lookup_cons, ih, beq_eq_false_iff_ne.2 h]
    · simp [List.lookup_cons, ih, hkey]

/-- The entry stands at its place, there are directories on the way to it, and everything else
stands where it stood. -/
theorem entry?_put {parts : List String} (h : parts ≠ []) (entry : Entry) (place : List String) :
    Tree.entry? (tree.put parts entry) place =
      if place = parts then some entry
      else if place <+: parts ∧ tree.entry? place = none then some .directory
      else tree.entry? place := by
  by_cases hnil : place = []
  · subst hnil
    simp [root_entry, Ne.symm h]
  rw [lookup_entries hnil, put, List.lookup_append, lookup_directories, List.lookup_cons]
  by_cases hplace : place = parts
  · subst hplace
    simp [mem_ways]
  · rw [lookup_filter_ne hplace]
    simp only [List.mem_filter, mem_ways, ne_eq, hplace, not_false_eq_true, and_true,
      Option.isNone_iff_eq_none, if_false, beq_eq_false_iff_ne.2 hplace]
    split
    · rfl
    · rw [lookup_entries hnil]
      rfl

theorem put_cwd (tree : Tree) (parts : List String) (entry : Entry) :
    (tree.put parts entry).cwd = tree.cwd := rfl

namespace Sound

variable {made : List String} {part : String} {entry : Entry}

/-- Below a directory nothing else is added. -/
theorem entry?_put (h : tree.Sound) (hmade : tree.entry? made = some .directory) (part : String)
    (entry : Entry) (place : List String) :
    Tree.entry? (tree.put (made ++ [part]) entry) place =
      if place = made ++ [part] then some entry else tree.entry? place := by
  rw [Tree.entry?_put (by simp)]
  by_cases hplace : place = made ++ [part]
  · rw [if_pos hplace, if_pos hplace]
  · rw [if_neg hplace, if_neg hplace, if_neg]
    rintro ⟨hway, hnone⟩
    rw [h.entry?_of_prefix hmade ((List.prefix_concat_iff.1 hway).resolve_left hplace)] at hnone
    cases hnone

protected theorem put (h : tree.Sound) (hmade : tree.entry? made = some .directory)
    (hpart : IsName part ∧ part.utf8ByteSize ≤ partLimit)
    (hkeeps : tree.entry? (made ++ [part]) = some .directory → entry = .directory) :
    (tree.put (made ++ [part]) entry).Sound where
  named := by
    intro place found hfound
    rw [h.entry?_put hmade] at hfound
    split at hfound
    · next hplace =>
      rw [hplace, List.forall_mem_append]
      exact ⟨h.named hmade, fun other hother => by rwa [List.mem_singleton.1 hother]⟩
    · exact h.named hfound
  above := by
    intro place other found hfound
    have hplace : tree.entry? place = some .directory := by
      rw [h.entry?_put hmade] at hfound
      split at hfound
      · next heq => rwa [(List.append_inj' heq rfl).1]
      · exact h.above hfound
    rw [h.entry?_put hmade]
    split
    · next heq => rw [hkeeps (heq ▸ hplace)]
    · exact hplace
  here := by
    rw [put_cwd, h.entry?_put hmade]
    split
    · next heq => rw [hkeeps (heq ▸ h.here)]
    · exact h.here

end Sound

end Tree

end CommitRules.Files
