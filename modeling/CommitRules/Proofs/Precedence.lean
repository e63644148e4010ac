import CommitRules.Config.Load
import CommitRules.Proofs.Differences
import CommitRules.Proofs.Documents
import CommitRules.Proofs.Returning
import Mathlib.Data.List.Nodup

/-!
# CommitRules.Proofs.Precedence

Which of its configuration files the configuration of a repository comes from, and which of them
have no influence on it.

* `loadConfig_found`: the first dedicated file that is there is read.
* `loadProject_from`: what comes of the project file.
* `loadConfig_some_congr`: a file that is given is all that counts.
* `config_precedence`: what the configuration is in each case, and what it does not depend on.
-/

namespace CommitRules

open CommitRules.Files
open CommitRules.Text

/-! ## What is in a file -/

/-- A file can be read as a document. -/
def HoldsDocument (tree : Tree) (path : Path) (document : Table) : Prop :=
  ∃ bytes, tree.read path = .ok bytes ∧ Toml.readBytes bytes = .ok (.ok document)

/-- A document has a table for tools, and in it a table for this program. -/
def HasSection (document found : Table) : Prop :=
  ∃ tools, document.lookup "tool" = some (.table tools) ∧
    tools.lookup "scanva" = some (.table found)

theorem toolSection?_iff {document found : Table} :
    toolSection? document = some found ↔ HasSection document found := by
  unfold toolSection?
  constructor
  · intro h
    split at h
    · next tools htools =>
      split at h
      · next found' hfound =>
        cases h
        exact ⟨tools, htools, hfound⟩
      · cases h
    · cases h
  · rintro ⟨tools, htools, hfound⟩
    rw [htools]
    dsimp only
    rw [hfound]

section Files

variable {tree other : Tree} {path : Path} {document found : Table}

theorem loadDocument_iff :
    loadDocument tree path = .ok document ↔ HoldsDocument tree path document := by
  rw [loadDocument, except_bind_iff]
  refine exists_congr fun bytes => and_congr_right fun _ => ?_
  rw [except_bind_iff]
  constructor
  · rintro ⟨result, hresult, h⟩
    cases result with
    | error message => cases h
    | ok document' =>
      cases h
      exact hresult
  · exact fun h => ⟨_, h, rfl⟩

theorem read_ne_noConfig : tree.read path ≠ .error .noConfig := by
  unfold Tree.read
  split
  · nofun
  · split <;> nofun

theorem exists?_ne_noConfig : tree.exists? path ≠ .error .noConfig := by
  unfold Tree.exists?
  split
  · nofun
  · split <;> nofun

theorem readBytes_ne_noConfig (bytes : List UInt8) : Toml.readBytes bytes ≠ .error .noConfig := by
  unfold Toml.readBytes
  split
  · nofun
  · dsimp only
    split <;> nofun

theorem loadDocument_ne_noConfig : loadDocument tree path ≠ .error .noConfig := by
  intro h
  rcases bind_error h with h | ⟨bytes, -, h⟩
  · exact read_ne_noConfig h
  rcases bind_error h with h | ⟨result, -, h⟩
  · exact readBytes_ne_noConfig bytes h
  · cases result <;> cases h

theorem readConfig_ne_noConfig (document : Table) (source : Option String) :
    readConfig document source ≠ .error .noConfig := by
  intro h
  obtain ⟨message, h | h⟩ := readConfig_fails h
  · cases h
  · cases h

theorem loadFile_ne_noConfig : loadFile tree path ≠ .error .noConfig := by
  intro h
  rcases bind_error h with h | ⟨document, -, h⟩
  · exact loadDocument_ne_noConfig h
  · exact readConfig_ne_noConfig _ _ h

theorem loadFile_congr (h : tree.read path = other.read path) :
    loadFile tree path = loadFile other path := by
  rw [loadFile, loadFile, loadDocument, loadDocument, h]

theorem loadFile_section (hdocument : HoldsDocument tree path document)
    (hfound : HasSection document found) :
    loadFile tree path = readConfig found (some path.text) := by
  rw [loadFile, loadDocument_iff.2 hdocument]
  simp only [bind, Except.bind, configPart, toolSection?_iff.2 hfound]

theorem toolSection?_eq_none (h : ∀ found, ¬ HasSection document found) :
    toolSection? document = none :=
  Option.eq_none_iff_forall_ne_some.2 fun found hfound => h found (toolSection?_iff.1 hfound)

theorem loadFile_whole (hdocument : HoldsDocument tree path document)
    (hnone : ∀ found, ¬ HasSection document found) (hname : path.name ≠ projectName) :
    loadFile tree path = readConfig document (some path.text) := by
  rw [loadFile, loadDocument_iff.2 hdocument]
  simp only [bind, Except.bind, configPart, toolSection?_eq_none hnone, if_neg hname]

/-- A project file without a section, if it is given, is a configuration without rules. -/
theorem loadFile_bare (hdocument : HoldsDocument tree path document)
    (hnone : ∀ found, ¬ HasSection document found) (hname : path.name = projectName) :
    loadFile tree path = .ok ⟨[], some path.text⟩ := by
  rw [loadFile, loadDocument_iff.2 hdocument]
  simp only [bind, Except.bind, configPart, toolSection?_eq_none hnone, if_pos hname]
  exact readConfig_iff.2 ⟨rfl, List.forall_mem_nil _, .absent⟩

theorem HoldsDocument.exists?_eq (h : HoldsDocument tree path document) :
    tree.exists? path = .ok true := by
  obtain ⟨bytes, hread, -⟩ := h
  exact exists?_of_read ⟨bytes, hread⟩

end Files

/-! ## The files of a repository -/

def repoFile (tree : Tree) (repo : Path) (name : String) : Path :=
  (repo.resolve tree.cwd).join (.ofText name)

/-- The places of files of a repository. -/
def placesOf (tree : Tree) (repo : Path) (names : List String) : List (List String) :=
  names.map fun name => (repoFile tree repo name).parts

/-- The files that a configuration is looked for in, the first one first. -/
def searchedNames : List String := configNames ++ [projectName]

section Search

variable {tree other : Tree} {repo base : Path} {name : String} {names earlier later : List String}

theorem repoFile_eq (tree : Tree) (repo : Path) (h : name ∈ searchedNames) :
    repoFile tree repo name = ⟨.root, (repo.resolve tree.cwd).parts ++ [name]⟩ := by
  have hname : ∀ name ∈ searchedNames, Path.ofText name = ⟨.relative, [name]⟩ := by decide +kernel
  rw [repoFile, hname name h]
  rfl

/-- A file of a repository avoids those beside it. -/
theorem avoids_beside (tree other : Tree) (repo : Path) (hname : name ∈ searchedNames)
    (hnames : ∀ beside ∈ names, beside ∈ searchedNames) (hnot : name ∉ names) :
    other.Avoids (placesOf tree repo names) (repoFile tree repo name) := by
  intro way hway hchanged
  have hdots : ".." ∉ (repoFile tree repo name).parts := by
    rw [repoFile_eq tree repo hname]
    intro hmem
    rcases List.mem_append.1 hmem with hmem | hmem
    · exact (Path.mem_resolveDots hmem).2 rfl
    · rw [List.mem_singleton] at hmem
      subst hmem
      revert hname
      decide
  rw [Path.resolveDots_of_not_mem fun hmem => hdots (hway.subset hmem)] at hchanged
  obtain ⟨beside, hbeside, rfl⟩ := List.mem_map.1 hchanged
  rw [repoFile_eq tree repo hname, repoFile_eq tree repo (hnames beside hbeside)] at hway
  have hsame := hway.eq_of_length (by simp)
  rw [List.append_cancel_left_eq, List.singleton_inj] at hsame
  exact absurd (hsame ▸ hbeside) hnot

theorem nil_not_mem_places (hnames : ∀ beside ∈ names, beside ∈ searchedNames) :
    [] ∉ placesOf tree repo names := by
  intro h
  obtain ⟨beside, hbeside, hnil⟩ := List.mem_map.1 h
  rw [repoFile_eq tree repo (hnames beside hbeside)] at hnil
  simp at hnil

theorem loadConfig_none (h : repo.hasNul = false) (tree : Tree) :
    loadConfig tree repo none = loadFirst tree (repo.resolve tree.cwd) configNames := by
  rw [loadConfig, h]
  rfl

/-- By induction on the files that are not there. -/
theorem loadFirst_skips
    (h : ∀ absent ∈ earlier, tree.exists? (base.join (.ofText absent)) = .ok false)
    (later : List String) :
    loadFirst tree base (earlier ++ later) = loadFirst tree base later := by
  induction earlier with
  | nil => rfl
  | cons absent earlier ih =>
    obtain ⟨habsent, h⟩ := List.forall_mem_cons.1 h
    rw [List.cons_append, loadFirst, habsent]
    exact ih h

theorem loadFirst_found (h : tree.exists? (base.join (.ofText name)) = .ok true)
    (later : List String) :
    loadFirst tree base (name :: later) = loadFile tree (base.join (.ofText name)) := by
  simp only [loadFirst, h, bind, Except.bind, if_true]

end Search

/-! ## Precedence -/

/-- What the configuration is if it can only be a section of the project file at a path. -/
structure FromProject (tree : Tree) (path : Path) (outcome : Except Failure Config) : Prop where
  found : ∀ {document found}, HoldsDocument tree path document → HasSection document found →
    outcome = readConfig found (some path.text)
  /-- A file that cannot be read as a document is not passed over. -/
  broken : ∀ {failure}, tree.exists? path = .ok true → loadDocument tree path = .error failure →
    outcome = .error failure ∧ failure ≠ .noConfig
  unclear : ∀ {failure}, tree.exists? path = .error failure → outcome = .error failure
  notFound : outcome = .error .noConfig ↔ tree.exists? path = .ok false ∨
    ∃ document, HoldsDocument tree path document ∧ ∀ found, ¬ HasSection document found

/-- Where the configuration of a repository comes from. -/
structure Precedence (tree : Tree) (repo : Path) : Prop where
  /-- Without an explicit path, the first dedicated file that is there is the configuration or what
  is wrong with it. What the files after it hold, and whether they are there, does not matter. -/
  dedicated : ∀ {earlier name later}, configNames = earlier ++ name :: later →
    (∀ absent ∈ earlier, tree.exists? (repoFile tree repo absent) = .ok false) →
    tree.exists? (repoFile tree repo name) = .ok true →
    loadConfig tree repo none = loadFile tree (repoFile tree repo name) ∧
    loadConfig tree repo none ≠ .error .noConfig ∧
    ∀ other, Tree.SameBut (placesOf tree repo (later ++ [projectName])) tree other →
      loadConfig other repo none = loadConfig tree repo none
  /-- A file for which it cannot be told whether it is there is not passed over either. -/
  unclear : ∀ {earlier name later failure}, configNames = earlier ++ name :: later →
    (∀ absent ∈ earlier, tree.exists? (repoFile tree repo absent) = .ok false) →
    tree.exists? (repoFile tree repo name) = .error failure →
    loadConfig tree repo none = .error failure
  project : (∀ absent ∈ configNames, tree.exists? (repoFile tree repo absent) = .ok false) →
    FromProject tree (repoFile tree repo projectName) (loadConfig tree repo none)
  /-- A path that is given is the only one that counts. -/
  explicit : ∀ given,
    (tree.exists? ((repo.resolve tree.cwd).join given) = .ok true →
      loadConfig tree repo (some given) = loadFile tree ((repo.resolve tree.cwd).join given)) ∧
    (tree.exists? ((repo.resolve tree.cwd).join given) = .ok false →
      loadConfig tree repo (some given) = .error (.config
        ("Config file does not exist: " ++ ((repo.resolve tree.cwd).join given).text))) ∧
    ∀ other, Tree.SameBut (placesOf tree repo searchedNames) tree other →
      tree.Avoids (placesOf tree repo searchedNames) ((repo.resolve tree.cwd).join given) →
      other.Avoids (placesOf tree repo searchedNames) ((repo.resolve tree.cwd).join given) →
      loadConfig other repo (some given) = loadConfig tree repo (some given)
  /-- The section of a document is the whole configuration, and without one the whole document is,
  except in a project file. -/
  part : ∀ {path document}, HoldsDocument tree path document →
    (∀ found, HasSection document found → loadFile tree path = readConfig found (some path.text)) ∧
    (path.name ≠ projectName → (∀ found, ¬ HasSection document found) →
      loadFile tree path = readConfig document (some path.text))
  named : ∀ name ∈ configNames, (repoFile tree repo name).name = name ∧ name ≠ projectName

section Precedence

variable {tree other : Tree} {repo : Path}

theorem loadProject_absent {base : Path}
    (h : tree.exists? (base.join (.ofText projectName)) = .ok false) :
    loadProject tree base = .error .noConfig := by
  rw [loadProject, h]
  rfl

theorem loadProject_there {base : Path}
    (h : tree.exists? (base.join (.ofText projectName)) = .ok true) :
    loadProject tree base =
      loadDocument tree (base.join (.ofText projectName)) >>= fun document =>
        match toolSection? document with
        | some found => readConfig found (some (base.join (.ofText projectName)).text)
        | none => .error .noConfig := by
  rw [loadProject, h]
  rfl

theorem loadProject_from (tree : Tree) (base : Path) :
    FromProject tree (base.join (.ofText projectName)) (loadProject tree base) where
  found := by
    intro document found hdocument hfound
    rw [loadProject_there hdocument.exists?_eq, loadDocument_iff.2 hdocument]
    simp only [bind, Except.bind, toolSection?_iff.2 hfound]
  broken := by
    intro failure hthere hfailure
    rw [loadProject_there hthere, hfailure]
    exact ⟨rfl, fun he => loadDocument_ne_noConfig (he ▸ hfailure)⟩
  unclear := by
    intro failure hfailure
    rw [loadProject, hfailure]
    rfl
  notFound := by
    constructor
    · intro h
      cases hexists : tree.exists? (base.join (.ofText projectName)) with
      | error failure =>
        rw [loadProject, hexists] at h
        cases h
        exact absurd hexists exists?_ne_noConfig
      | ok there =>
        cases there with
        | false => exact .inl rfl
        | true =>
          rw [loadProject_there hexists] at h
          rcases bind_error h with h | ⟨document, hdocument, h⟩
          · exact absurd h loadDocument_ne_noConfig
          · refine .inr ⟨document, loadDocument_iff.1 hdocument, fun found hfound => ?_⟩
            rw [toolSection?_iff.2 hfound] at h
            exact readConfig_ne_noConfig _ _ h
    · rintro (h | ⟨document, hdocument, hnone⟩)
      · exact loadProject_absent h
      · rw [loadProject_there hdocument.exists?_eq, loadDocument_iff.2 hdocument]
        simp only [bind, Except.bind, toolSection?_eq_none hnone]

theorem loadConfig_some (h : repo.hasNul = false) (tree : Tree) {given path : Path}
    (hpath : (repo.resolve tree.cwd).join given = path) :
    loadConfig tree repo (some given) =
      match tree.exists? path with
      | .error failure => .error failure
      | .ok false => .error (.config ("Config file does not exist: " ++ path.text))
      | .ok true => loadFile tree path := by
  subst hpath
  rw [loadConfig, h]
  cases hexists : tree.exists? ((repo.resolve tree.cwd).join given) with
  | error failure =>
    simp only [bind, Except.bind, hexists]
    rfl
  | ok there =>
    cases there with
    | false | true =>
      simp only [bind, Except.bind, hexists]
      rfl

/-- What a lookup finds decides about a file that is given. -/
theorem loadConfig_some_congr (h : repo.hasNul = false) {given : Path} (hcwd : other.cwd = tree.cwd)
    (hagree : Tree.Agree (tree.look ((repo.resolve tree.cwd).join given))
      (other.look ((repo.resolve tree.cwd).join given))) :
    loadConfig other repo (some given) = loadConfig tree repo (some given) := by
  rw [loadConfig_some h other (by rw [hcwd]), loadConfig_some h tree rfl, ← hagree.exists?_eq]
  cases hexists : tree.exists? ((repo.resolve tree.cwd).join given) with
  | error failure => rfl
  | ok there =>
    cases there with
    | false => rfl
    | true => exact (loadFile_congr (hagree.read_eq hexists)).symm

/-- In a tree that is the same but for the files searched later, those searched before are found
as they were. -/
theorem look_agrees_before {earlier later : List String} {name before : String}
    (hnames : configNames = earlier ++ name :: later)
    (hsame : Tree.SameBut (placesOf tree repo (later ++ [projectName])) tree other)
    (hbefore : before ∈ earlier ++ [name]) :
    Tree.Agree (tree.look (repoFile tree repo before)) (other.look (repoFile tree repo before)) := by
  have hsearched : searchedNames = (earlier ++ [name]) ++ (later ++ [projectName]) := by
    simp [searchedNames, hnames]
  have hdistinct : ((earlier ++ [name]) ++ (later ++ [projectName])).Nodup := by
    rw [← hsearched]
    decide
  have hmem : before ∈ searchedNames := hsearched ▸ List.mem_append_left _ hbefore
  have hlater : ∀ after ∈ later ++ [projectName], after ∈ searchedNames :=
    fun after hafter => hsearched ▸ List.mem_append_right _ hafter
  have hnot : before ∉ later ++ [projectName] := List.disjoint_of_nodup_append hdistinct hbefore
  refine Tree.look_agrees hsame (nil_not_mem_places hlater) ?_ ?_ ?_
  · exact Path.isAbsolute_join_resolve _ _ _
  · exact avoids_beside tree tree repo hmem hlater hnot
  · exact avoids_beside tree other repo hmem hlater hnot

theorem loadConfig_found (h : repo.hasNul = false) {earlier later : List String} {name : String}
    (hnames : configNames = earlier ++ name :: later)
    (habsent : ∀ absent ∈ earlier, tree.exists? (repoFile tree repo absent) = .ok false)
    (hfound : tree.exists? (repoFile tree repo name) = .ok true) :
    loadConfig tree repo none = loadFile tree (repoFile tree repo name) := by
  rw [loadConfig_none h, hnames, loadFirst_skips habsent, loadFirst_found hfound]
  rfl

theorem config_precedence (h : repo.hasNul = false) (tree : Tree) : Precedence tree repo where
  dedicated := by
    intro earlier name later hnames habsent hfound
    have hload := loadConfig_found h hnames habsent hfound
    refine ⟨hload, hload ▸ loadFile_ne_noConfig, fun other hsame => ?_⟩
    have hagree := fun before (hbefore : before ∈ earlier ++ [name]) =>
      look_agrees_before hnames hsame hbefore
    have hfile : ∀ file, repoFile other repo file = repoFile tree repo file := fun file => by
      rw [repoFile, hsame.cwd, repoFile]
    have hthere := hagree name (by simp)
    rw [hload, loadConfig_found h hnames, hfile]
    · exact (loadFile_congr (hthere.read_eq hfound)).symm
    · intro absent hmem
      rw [hfile, ← (hagree absent (List.mem_append_left _ hmem)).exists?_eq]
      exact habsent absent hmem
    · rw [hfile, ← hthere.exists?_eq]
      exact hfound
  unclear := by
    intro earlier name later failure hnames habsent hfailure
    rw [loadConfig_none h, hnames, loadFirst_skips habsent, loadFirst]
    rw [repoFile] at hfailure
    rw [hfailure]
    rfl
  project := by
    intro habsent
    have hload : loadConfig tree repo none = loadProject tree (repo.resolve tree.cwd) := by
      rw [loadConfig_none h, ← List.append_nil configNames, loadFirst_skips habsent]
      rfl
    rw [hload]
    exact loadProject_from tree _
  explicit := by
    intro given
    refine ⟨fun hthere => ?_, fun hmissing => ?_, fun other hsame htree hother => ?_⟩
    · rw [loadConfig_some h tree rfl, hthere]
    · rw [loadConfig_some h tree rfl, hmissing]
    · refine loadConfig_some_congr h hsame.cwd (Tree.look_agrees hsame ?_ ?_ htree hother)
      · exact nil_not_mem_places fun _ hname => hname
      · exact Path.isAbsolute_join_resolve _ _ _
  part := fun hdocument => ⟨fun _ => loadFile_section hdocument,
    fun hname hnone => loadFile_whole hdocument hnone hname⟩
  named := by
    intro name hname
    rw [repoFile_eq tree repo (List.mem_append_left _ hname)]
    refine ⟨by simp [Path.name], ?_⟩
    revert name
    decide

/-- A repository with all three files, the first of which is no configuration, and another one. -/
def layeredTree : Tree :=
  ⟨[(["r"], .directory), (["r", "scanva.toml"], .file (Utf8.encode "rules = 1\n")),
    (["r", ".scanva.toml"], .file (Utf8.encode "")),
    (["r", "pyproject.toml"], .file (Utf8.encode "[tool.scanva]\n")),
    (["r", "other.toml"], .file (Utf8.encode "[[rules]]\n"))], []⟩

theorem config_precedence_layers :
    Path.hasNul ⟨.root, ["r"]⟩ = false ∧
    loadConfig layeredTree ⟨.root, ["r"]⟩ none =
      .error (.config "rules must be a list of tables") ∧
    loadConfig (layeredTree.remove ["r", ".scanva.toml"]) ⟨.root, ["r"]⟩ none =
      .error (.config "rules must be a list of tables") ∧
    loadConfig (layeredTree.remove ["r", "scanva.toml"]) ⟨.root, ["r"]⟩
        (some (.ofText "other.toml")) =
      loadConfig layeredTree ⟨.root, ["r"]⟩ (some (.ofText "other.toml")) := by
  have hnul : Path.hasNul ⟨.root, ["r"]⟩ = false := by decide +kernel
  have hprecedence := config_precedence hnul layeredTree
  have hload : loadConfig layeredTree ⟨.root, ["r"]⟩ none =
      .error (.config "rules must be a list of tables") := by decide +kernel
  refine ⟨hnul, hload, ?_, ?_⟩
  · obtain ⟨-, -, hsame⟩ := @Precedence.dedicated _ _ hprecedence [] "scanva.toml" [".scanva.toml"]
      rfl (by simp) (by decide +kernel)
    rw [hsame _ ((Tree.sameBut_remove layeredTree ["r", ".scanva.toml"]).mono (by decide +kernel)),
      hload]
  · obtain ⟨-, -, hsame⟩ := hprecedence.explicit (.ofText "other.toml")
    refine hsame _ ((Tree.sameBut_remove layeredTree ["r", "scanva.toml"]).mono ?_) ?_ ?_
    · decide +kernel
    · exact Tree.avoids_of_files (by decide +kernel) (by decide +kernel)
    · exact Tree.avoids_of_files (by decide +kernel) (by decide +kernel)

end Precedence

end CommitRules
