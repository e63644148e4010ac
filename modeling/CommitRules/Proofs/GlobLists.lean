import CommitRules.Proofs.Returning

/-!
# CommitRules.Proofs.GlobLists

Lists of globs. All globs of a list are read before any is tried, so a list that cannot be read
fails on every path in the same way. Of a list that can be read, the last glob that hits a path
decides on it.

* `ofText_ok`, `ofText_error`: what a glob is read as, and why it cannot be.
* `foldl_verdict_iff`: going through a list, from any verdict on.
* `last_hit_decides`: the verdict of a list on any path, and of lists put together.
-/

namespace CommitRules.Glob

/-- Whether a glob takes out what it hits. -/
def IsNegated (glob : String) : Prop := glob.toList.head? = some '!'

/-- The globs without alternatives that a glob stands for, without the mark that negates it. -/
def variants (glob : String) : List (List Char) := expand (unmarked glob.toList)

/-- Whether every variant of a glob can be compiled. -/
def Compiles (glob : String) : Prop := ∀ variant ∈ variants glob, Returns (compile variant)

/-- The failure of the first variant of a glob that cannot be compiled. -/
def FailsWith (glob : String) (failure : Failure) : Prop :=
  ∃ before variant after, variants glob = before ++ variant :: after ∧
    (∀ other ∈ before, Returns (compile other)) ∧ compile variant = .error failure

/-- A glob hits a path if one of its variants matches the whole of it. -/
def Hits (glob path : String) : Prop :=
  ∃ variant ∈ variants glob, ∃ node, compile variant = .ok node ∧
    node.matchesAll path.toList = true

/-- The last glob of a list that hits a path. -/
def LastHit (globs : List String) (path glob : String) : Prop :=
  ∃ before after, globs = before ++ glob :: after ∧ Hits glob path ∧
    ∀ other ∈ after, ¬ Hits other path

/-! ## One glob -/

section Reading

variable {glob : String} {entry : Entry} {failure : Failure}

theorem returns_entry_iff : Returns (Entry.ofText glob.toList) ↔ Compiles glob := by
  rw [ofText_eq]
  exact (returns_bind_of_returns fun _ => returns_ok _).trans returns_mapM_iff

theorem ofText_error (h : Entry.ofText glob.toList = .error failure) : FailsWith glob failure := by
  rw [ofText_eq] at h
  rcases bind_error h with h | ⟨nodes, -, h⟩
  · exact mapM_fails h
  · cases h

theorem ofText_ok (h : Entry.ofText glob.toList = .ok entry) (path : String) :
    (entry.negated = true ↔ IsNegated glob) ∧
      (entry.hits path.toList = true ↔ Hits glob path) := by
  rw [ofText_eq] at h
  cases hnodes : (expand (unmarked glob.toList)).mapM compile with
  | error failure =>
    rw [hnodes] at h
    cases h
  | ok nodes =>
    rw [hnodes] at h
    cases h
    refine ⟨decide_eq_true_iff, ?_⟩
    rw [Entry.hits, List.any_eq_true]
    constructor
    · rintro ⟨node, hnode, hmatches⟩
      obtain ⟨variant, hvariant, hcompile⟩ := (mem_mapM_ok hnodes).1 hnode
      exact ⟨variant, hvariant, node, hcompile, hmatches⟩
    · rintro ⟨variant, hvariant, node, hcompile, hmatches⟩
      exact ⟨node, (mem_mapM_ok hnodes).2 ⟨variant, hvariant, hcompile⟩, hmatches⟩

end Reading

/-! ## Lists -/

section Lists

variable {globs more : List String} {path : String} {entries : List Entry}

theorem not_lastHit_nil {glob : String} : ¬ LastHit [] path glob := by
  rintro ⟨before, after, h, -⟩
  simp at h

theorem lastHit_cons {first glob : String} :
    LastHit (first :: globs) path glob ↔
      LastHit globs path glob ∨
        glob = first ∧ Hits first path ∧ ∀ other ∈ globs, ¬ Hits other path := by
  constructor
  · rintro ⟨before, after, h, hhit, hnone⟩
    cases before with
    | nil =>
      cases h
      exact .inr ⟨rfl, hhit, hnone⟩
    | cons _ before =>
      cases h
      exact .inl ⟨before, after, rfl, hhit, hnone⟩
  · rintro (⟨before, after, rfl, hhit, hnone⟩ | ⟨rfl, hhit, hnone⟩)
    · exact ⟨first :: before, after, rfl, hhit, hnone⟩
    · exact ⟨[], globs, rfl, hhit, hnone⟩

theorem exists_hit {glob : String} (h : LastHit globs path glob) :
    ∃ glob ∈ globs, Hits glob path := by
  obtain ⟨before, after, rfl, hhit, -⟩ := h
  exact ⟨glob, by simp, hhit⟩

/-- The verdict so far stands unless a glob hits the path, and then the last one that does
decides. -/
theorem foldl_verdict_iff (h : globs.mapM (fun glob => Entry.ofText glob.toList) = .ok entries)
    (path : String) (taken : Bool) :
    entries.foldl (verdict path.toList) taken = true ↔
      (∃ glob, LastHit globs path glob ∧ ¬ IsNegated glob) ∨
        (∀ glob ∈ globs, ¬ Hits glob path) ∧ taken = true := by
  induction globs generalizing entries taken with
  | nil =>
    cases h
    simp [not_lastHit_nil]
  | cons first globs ih =>
    obtain ⟨entry, rest, hfirst, hrest, rfl⟩ := mapM_cons_ok h
    obtain ⟨hnegated, hhits⟩ := ofText_ok hfirst path
    rw [List.foldl_cons, ih hrest, verdict]
    by_cases hhit : Hits first path
    · have hverdict : (!entry.negated) = true ↔ ¬ IsNegated first := by
        rw [← hnegated, Bool.not_eq_true', Bool.not_eq_true]
      rw [if_pos (hhits.2 hhit), hverdict]
      simp only [lastHit_cons, List.forall_mem_cons, hhit, not_true, false_and, or_false, true_and]
      constructor
      · rintro (⟨glob, hlast, hglob⟩ | ⟨hnone, hglob⟩)
        · exact ⟨glob, .inl hlast, hglob⟩
        · exact ⟨first, .inr ⟨rfl, hnone⟩, hglob⟩
      · rintro ⟨glob, hlast | ⟨rfl, hnone⟩, hglob⟩
        · exact .inl ⟨glob, hlast, hglob⟩
        · exact .inr ⟨hnone, hglob⟩
    · rw [if_neg (mt hhits.1 hhit)]
      simp only [lastHit_cons, List.forall_mem_cons, hhit, false_and, and_false, or_false,
        not_false_iff, true_and]

/-- Globs that do not hit leave the verdict as it is. -/
theorem foldl_verdict_of_none
    (h : globs.mapM (fun glob => Entry.ofText glob.toList) = .ok entries)
    (hnone : ∀ glob ∈ globs, ¬ Hits glob path) (taken : Bool) :
    entries.foldl (verdict path.toList) taken = taken := by
  rw [Bool.eq_iff_iff, foldl_verdict_iff h]
  constructor
  · rintro (⟨glob, hlast, -⟩ | ⟨-, htaken⟩)
    · obtain ⟨hit, hmem, hhit⟩ := exists_hit hlast
      exact (hnone hit hmem hhit).elim
    · exact htaken
  · intro htaken
    exact .inr ⟨hnone, htaken⟩

/-- A glob that hits makes what was before it count for nothing. -/
theorem foldl_verdict_of_hit
    (h : globs.mapM (fun glob => Entry.ofText glob.toList) = .ok entries)
    (hhit : ∃ glob ∈ globs, Hits glob path) (taken other : Bool) :
    entries.foldl (verdict path.toList) taken = entries.foldl (verdict path.toList) other := by
  obtain ⟨hit, hmem, hhit⟩ := hhit
  have hsome : ¬ ∀ glob ∈ globs, ¬ Hits glob path := fun hnone => hnone hit hmem hhit
  rw [Bool.eq_iff_iff, foldl_verdict_iff h, foldl_verdict_iff h]
  simp only [hsome, false_and]

theorem takes_ok (h : globs.mapM (fun glob => Entry.ofText glob.toList) = .ok entries)
    (path : String) : takes globs path = .ok (entries.foldl (verdict path.toList) false) := by
  rw [takes, h]
  rfl

theorem takes_error {failure : Failure}
    (h : globs.mapM (fun glob => Entry.ofText glob.toList) = .error failure) (path : String) :
    takes globs path = .error failure := by
  rw [takes, h]
  rfl

theorem entries_of_returns (h : Returns (takes globs path)) :
    ∃ entries, globs.mapM (fun glob => Entry.ofText glob.toList) = .ok entries := by
  obtain ⟨taken, h⟩ := h
  cases hentries : globs.mapM fun glob => Entry.ofText glob.toList with
  | error failure =>
    rw [takes_error hentries] at h
    cases h
  | ok entries => exact ⟨entries, rfl⟩

theorem takes_inserted (before after : List String)
    (h : ∀ glob ∈ globs, Compiles glob ∧ ¬ Hits glob path) :
    takes (before ++ globs ++ after) path = takes (before ++ after) path := by
  obtain ⟨entries, hentries⟩ :
      Returns (globs.mapM fun glob => Entry.ofText glob.toList) :=
    returns_mapM_iff.2 fun glob hglob => returns_entry_iff.2 (h glob hglob).1
  have hnone := foldl_verdict_of_none hentries fun glob hglob => (h glob hglob).2
  simp only [takes, List.mapM_append, hentries]
  cases before.mapM fun glob => Entry.ofText glob.toList with
  | error failure => rfl
  | ok first =>
    cases after.mapM fun glob => Entry.ofText glob.toList with
    | error failure => rfl
    | ok last => simp [bind, Except.bind, pure, Except.pure, List.foldl_append, hnone]

theorem takes_append (hglobs : Returns (takes globs path)) (hmore : Returns (takes more path)) :
    ((∃ glob ∈ more, Hits glob path) → takes (globs ++ more) path = takes more path) ∧
      ((∀ glob ∈ more, ¬ Hits glob path) → takes (globs ++ more) path = takes globs path) := by
  obtain ⟨first, hfirst⟩ := entries_of_returns hglobs
  obtain ⟨second, hsecond⟩ := entries_of_returns hmore
  have hboth : (globs ++ more).mapM (fun glob => Entry.ofText glob.toList) =
      .ok (first ++ second) := by
    rw [List.mapM_append, hfirst, hsecond]
    rfl
  rw [takes_ok hboth, takes_ok hfirst, takes_ok hsecond, List.foldl_append]
  refine ⟨fun hhit => ?_, fun hnone => ?_⟩
  · rw [foldl_verdict_of_hit hsecond hhit]
  · rw [foldl_verdict_of_none hsecond hnone]

end Lists

/-- A list of globs fails on every path with the failure of its first glob that cannot be compiled,
or it takes a path in if and only if some glob hits it and the last one that does is not negated. So
a list of negated globs takes nothing in, globs that do not hit can be put anywhere, and of two
lists put together the second decides if it hits, and else the first. -/
theorem last_hit_decides (globs : List String) :
    ((∃ before glob after failure, globs = before ++ glob :: after ∧
        (∀ other ∈ before, Compiles other) ∧ FailsWith glob failure ∧
          ∀ path, takes globs path = .error failure) ∨
      (∀ glob ∈ globs, Compiles glob) ∧
        ∀ path, ∃ taken, takes globs path = .ok taken ∧
          (taken = true ↔ ∃ glob, LastHit globs path glob ∧ ¬ IsNegated glob)) ∧
    ((∀ glob ∈ globs, IsNegated glob) → ∀ path, takes globs path ≠ .ok true) ∧
    (∀ before after path, (∀ glob ∈ globs, Compiles glob ∧ ¬ Hits glob path) →
      takes (before ++ globs ++ after) path = takes (before ++ after) path) ∧
    ∀ more path, Returns (takes globs path) → Returns (takes more path) →
      ((∃ glob ∈ more, Hits glob path) → takes (globs ++ more) path = takes more path) ∧
        ((∀ glob ∈ more, ¬ Hits glob path) → takes (globs ++ more) path = takes globs path) := by
  refine ⟨?_, ?_, fun before after path h => takes_inserted before after h,
    fun more path hglobs hmore => takes_append hglobs hmore⟩
  · cases hentries : globs.mapM fun glob => Entry.ofText glob.toList with
    | error failure =>
      obtain ⟨before, glob, after, rfl, hbefore, hglob⟩ := mapM_fails hentries
      exact .inl ⟨before, glob, after, failure, rfl,
        fun other hother => returns_entry_iff.1 (hbefore other hother), ofText_error hglob,
        takes_error hentries⟩
    | ok entries =>
      have hreturns := returns_mapM_iff.1 ⟨entries, hentries⟩
      refine .inr ⟨fun glob hglob => returns_entry_iff.1 (hreturns glob hglob), fun path =>
        ⟨_, takes_ok hentries path, ?_⟩⟩
      rw [foldl_verdict_iff hentries]
      simp
  · intro hnegated path htakes
    obtain ⟨entries, hentries⟩ := entries_of_returns ⟨true, htakes⟩
    rw [takes_ok hentries, Except.ok.injEq, foldl_verdict_iff hentries] at htakes
    rcases htakes with ⟨glob, ⟨before, after, rfl, -⟩, hglob⟩ | ⟨-, htaken⟩
    · exact hglob (hnegated glob (by simp))
    · cases htaken

/-- A file that a list takes out, by one of several alternatives, and a second list takes in
again. -/
theorem last_hit_decides_again :
    takes ["src/**", "!**/*.test.\x7bts,js\x7d"] "src/a.test.js" = .ok false ∧
    takes (["src/**", "!**/*.test.\x7bts,js\x7d"] ++ ["!*.md", "src/a.*"]) "src/a.test.js" =
      .ok true := by
  have hfirst : takes ["src/**", "!**/*.test.\x7bts,js\x7d"] "src/a.test.js" = .ok false := rfl
  have hsecond : takes ["!*.md", "src/a.*"] "src/a.test.js" = .ok true := rfl
  have hhit : Hits "src/a.*" "src/a.test.js" := ⟨"src/a.*".toList, by decide, _, rfl, rfl⟩
  have happend := (last_hit_decides ["src/**", "!**/*.test.\x7bts,js\x7d"]).2.2.2
    ["!*.md", "src/a.*"] "src/a.test.js" ⟨_, hfirst⟩ ⟨_, hsecond⟩
  exact ⟨hfirst, (happend.1 ⟨"src/a.*", by decide, hhit⟩).trans hsecond⟩

end CommitRules.Glob
