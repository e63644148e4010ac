import CommitRules.Proofs.Precedence

/-!
# CommitRules.Proofs.GivenPaths

A configuration that a search finds notes the path of its file, and is found again at this path.

* `clean_repoFile`: the path of a file of a repository is read again from what is written for it.
* `loadFirst_reads`: a search that finds something has read the file of one of the names.
* `search_agrees_with_path`: the noted path, given from wherever, and the name of the file, given in
  the repository, lead to the configuration that the search has found.
-/

namespace CommitRules

open CommitRules.Files
open CommitRules.Text

section Paths

variable {tree : Tree} {repo : Path}

theorem clean_resolve (hsound : tree.Sound) (hrepo : repo.Clean) :
    (repo.resolve tree.cwd).Clean := by
  intro part hpart
  obtain ⟨hmem, -⟩ := Path.mem_resolveDots hpart
  split at hmem
  · exact hrepo part hmem
  · rcases List.mem_append.1 hmem with hmem | hmem
    · have hname := (hsound.named hsound.here part hmem).1
      exact ⟨hname.nonempty, hname.dot, hname.slash⟩
    · exact hrepo part hmem

theorem clean_repoFile (hsound : tree.Sound) (hrepo : repo.Clean) (name : String) :
    (repoFile tree repo name).Clean :=
  (clean_resolve hsound hrepo).join (Path.clean_ofText name)

end Paths

section Search

variable {tree : Tree} {base repo : Path} {config : Config} {name : String} {names : List String}

/-- What is found at a path is what the file there holds. -/
def ReadAt (tree : Tree) (path : Path) (config : Config) : Prop :=
  tree.exists? path = .ok true ∧ loadFile tree path = .ok config

theorem ReadAt.source {path : Path} (h : ReadAt tree path config) :
    config.source = some path.text := by
  obtain ⟨document, -, hread⟩ := except_bind_iff.1 h.2
  exact (readConfig_iff.1 hread).1

/-- The project file is read in the same way on both routes, if it has a section. -/
theorem loadProject_reads (h : loadProject tree base = .ok config) :
    ReadAt tree (base.join (.ofText projectName)) config := by
  have hthere : tree.exists? (base.join (.ofText projectName)) = .ok true := by
    cases hexists : tree.exists? (base.join (.ofText projectName)) with
    | error failure =>
      rw [loadProject, hexists] at h
      cases h
    | ok there =>
      cases there with
      | true => rfl
      | false =>
        rw [loadProject_absent hexists] at h
        cases h
  rw [loadProject_there hthere] at h
  obtain ⟨document, hdocument, h⟩ := except_bind_iff.1 h
  refine ⟨hthere, ?_⟩
  split at h
  · next found hfound =>
    rw [loadFile_section (loadDocument_iff.1 hdocument) (toolSection?_iff.1 hfound)]
    exact h
  · cases h

/-- By induction on the names that are left to be searched. -/
theorem loadFirst_reads (h : loadFirst tree base names = .ok config) :
    ∃ name ∈ names ++ [projectName], ReadAt tree (base.join (.ofText name)) config := by
  induction names with
  | nil => exact ⟨projectName, List.mem_singleton_self _, loadProject_reads h⟩
  | cons name names ih =>
    rw [loadFirst] at h
    obtain ⟨there, hthere, h⟩ := except_bind_iff.1 h
    cases there with
    | true => exact ⟨name, List.mem_cons_self, hthere, h⟩
    | false =>
      obtain ⟨other, hother, hread⟩ := ih h
      exact ⟨other, List.mem_cons_of_mem name hother, hread⟩

theorem ReadAt.given {given path : Path} (h : ReadAt tree path config) (hrepo : repo.hasNul = false)
    (hpath : (repo.resolve tree.cwd).join given = path) :
    loadConfig tree repo (some given) = .ok config := by
  rw [loadConfig_some hrepo tree hpath, h.1]
  exact h.2

end Search

/-- A repository that is given from a directory beside it, and whose second file has a section. -/
def besideTree : Tree :=
  ⟨[(["w"], .directory), (["r"], .directory),
    (["r", ".scanva.toml"], .file (Utf8.encode "[tool.scanva]\n[other]\n")),
    (["r", "pyproject.toml"], .file (Utf8.encode "[tool.scanva]\nrules = 1\n"))], ["w"]⟩

/-- A configuration that a search finds in a repository comes from the file of one of the searched
names, and it notes the path of this file. The path, given with any repository, and the name, given
with this one, lead to the same configuration. -/
theorem search_agrees_with_path {tree : Tree} {place : String} {config : Config}
    (hsound : tree.Sound) (h : loadConfig tree (.ofText place) none = .ok config) :
    ∃ name ∈ searchedNames, ∃ source, config.source = some source ∧
      Path.ofText source = repoFile tree (.ofText place) name ∧
      (Path.ofText source).name = name ∧
      loadConfig tree (.ofText place) (some (.ofText source)) = .ok config ∧
      (∀ other : Path, other.hasNul = false →
        loadConfig tree other (some (.ofText source)) = .ok config) ∧
      loadConfig tree (.ofText place) (some (.ofText name)) = .ok config := by
  have hnul : (Path.ofText place).hasNul = false := by
    rw [← Bool.not_eq_true]
    intro hnul
    rw [loadConfig_of_hasNul hnul] at h
    cases h
  rw [loadConfig_none hnul] at h
  obtain ⟨name, hname, hread⟩ := loadFirst_reads h
  have hread : ReadAt tree (repoFile tree (.ofText place) name) config := hread
  have hpath : Path.ofText (repoFile tree (.ofText place) name).text =
      repoFile tree (.ofText place) name :=
    Path.ofText_text (clean_repoFile hsound (Path.clean_ofText place) name)
  -- The path starts at the root, so that it is the same file wherever it is looked up from.
  have habs : (repoFile tree (.ofText place) name).isAbsolute = true :=
    Path.isAbsolute_join_resolve _ _ _
  have hgiven : ∀ other : Path, other.hasNul = false →
      loadConfig tree other (some (.ofText (repoFile tree (.ofText place) name).text)) =
        .ok config := by
    intro other hother
    rw [hpath]
    refine hread.given hother ?_
    rw [Path.join, if_pos habs]
  refine ⟨name, hname, (repoFile tree (.ofText place) name).text, hread.source, hpath, ?_,
    hgiven _ hnul, hgiven, hread.given hnul rfl⟩
  rw [hpath, repoFile_eq tree _ hname, Path.name, List.getLast?_concat]
  rfl

theorem search_agrees_with_path_beside :
    besideTree.Sound ∧
    loadConfig besideTree (.ofText "../r") none = .ok ⟨[], some "/r/.scanva.toml"⟩ ∧
    loadConfig besideTree (.ofText "/w") (some (.ofText "/r/.scanva.toml")) =
      .ok ⟨[], some "/r/.scanva.toml"⟩ := by
  have hsound : besideTree.Sound :=
    Tree.sound_of_entries (by decide +kernel) (by decide +kernel) (by decide +kernel)
  have hload : loadConfig besideTree (.ofText "../r") none = .ok ⟨[], some "/r/.scanva.toml"⟩ :=
    ok_of_toOption (by decide +kernel)
  obtain ⟨name, -, source, hsource, -, -, -, hother, -⟩ := search_agrees_with_path hsound hload
  cases hsource
  exact ⟨hsound, hload, hother (.ofText "/w") (by decide +kernel)⟩

end CommitRules
