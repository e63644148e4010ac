import CommitRules.Proofs.Failing
import CommitRules.Proofs.Precedence
import CommitRules.Proofs.ReportedFaults

/-!
# CommitRules.Proofs.UnusableConfigs

What becomes of a configuration that cannot be used. Whatever is wrong with the document in a file
is the user's mistake, but the first path that a search comes to need not lead to a file.

* `loadFile_eludes`: what a path can lead to that is not reported as a mistake.
* `loadConfig_eludes`: that the first path that leads anywhere leads to this.
* `obtained_or_refused_iff`: the commands that need a configuration get one or refuse it, but then.
* `directory_unreported`: a directory in place of a configuration.
-/

namespace CommitRules

open CommitRules.Command (isBadValue)
open CommitRules.Files
open CommitRules.Text

/-- A failure that is not reported as the user's mistake. -/
def Eludes {α : Type} (outcome : Except Failure α) : Prop :=
  ∃ failure, outcome = .error failure ∧ isBadValue failure = false

/-- What a path leads to if it is of no use as a configuration and no mistake in one either. -/
inductive Baffles (tree : Tree) (path : Path) : Prop where
  | directory (hnul : path.hasNul = false) (h : tree.look path = .ok .directory)
  | tooLong (hnul : path.hasNul = false) (h : tree.look path = .error .nameTooLong)
  | count {document : Table} (h : HoldsDocument tree path document)
      (hcount : FailsByCount (configPart document path))

def searchedPaths (tree : Tree) (repo : Path) : Option Path → List Path
  | none => searchedNames.map (repoFile tree repo)
  | some given => [(repo.resolve tree.cwd).join given]

/-- A path that a search comes to, since nothing is at those before it. -/
def Reached (tree : Tree) (paths : List Path) (path : Path) : Prop :=
  ∃ earlier later, paths = earlier ++ path :: later ∧
    ∀ absent ∈ earlier, tree.exists? absent = .ok false

section Bind

variable {α β : Type} {first : Except Failure α} {next : α → Except Failure β}

theorem eludes_bind :
    Eludes (first >>= next) ↔ Eludes first ∨ ∃ value, first = .ok value ∧ Eludes (next value) :=
  failsBy_bind

theorem not_eludes_ok (value : α) : ¬ Eludes (.ok value : Except Failure α) := not_failsBy_ok value

theorem eludes_error {failure : Failure} :
    Eludes (.error failure : Except Failure α) ↔ isBadValue failure = false := failsBy_error

end Bind

/-! ## Files -/

section Files

variable {tree : Tree} {path : Path} {document : Table} {source : Option String}

theorem exists?_eq_error {failure : Failure} (h : tree.exists? path = .error failure) :
    path.hasNul = false ∧ tree.look path = .error .nameTooLong ∧ isBadValue failure = false := by
  unfold Tree.exists? at h
  split at h
  · cases h
  · next hnul =>
    split at h
    · cases h
    · next hlook =>
      cases h
      exact ⟨Bool.eq_false_iff.2 hnul, hlook, rfl⟩
    · cases h

theorem exists?_of_look (hnul : path.hasNul = false) {entry : Entry}
    (h : tree.look path = .ok entry) : tree.exists? path = .ok true := by
  simp [Tree.exists?, hnul, h]

theorem exists?_of_tooLong (hnul : path.hasNul = false) (h : tree.look path = .error .nameTooLong) :
    tree.exists? path = .error (Tree.failure .nameTooLong path) := by
  simp [Tree.exists?, hnul, h]

theorem read_eludes (hthere : tree.exists? path = .ok true) :
    Eludes (tree.read path) ↔ path.hasNul = false ∧ tree.look path = .ok .directory := by
  unfold Tree.exists? at hthere
  unfold Tree.read
  split
  · next hnul => simp [hnul] at hthere
  · next hnul =>
    rw [if_neg hnul] at hthere
    have hclear : path.hasNul = false := Bool.eq_false_iff.2 hnul
    split at hthere
    · next entry hlook =>
      rw [hlook]
      cases entry with
      | directory => exact ⟨fun _ => ⟨hclear, rfl⟩, fun _ => eludes_error.2 rfl⟩
      | file bytes => exact ⟨fun h => (not_eludes_ok _ h).elim, fun h => nomatch h.2⟩
    · cases hthere
    · cases hthere

theorem readBytes_eludes (bytes : List UInt8) : ¬ Eludes (Toml.readBytes bytes) := by
  unfold Toml.readBytes
  split
  · simp [eludes_error, isBadValue]
  · dsimp only
    split
    · exact not_eludes_ok _
    · exact not_eludes_ok _
    · simp [eludes_error, isBadValue]

theorem readConfig_eludes : Eludes (readConfig document source) ↔ FailsByCount document := by
  constructor
  · rintro ⟨failure, h, hbad⟩
    obtain ⟨message, rfl | rfl⟩ := readConfig_fails h
    · cases hbad
    · exact (readConfig_too_large.1 h).2
  · intro h
    exact ⟨_, readConfig_too_large.2 ⟨rfl, h⟩, rfl⟩

theorem loadDocument_eludes (hthere : tree.exists? path = .ok true) :
    Eludes (loadDocument tree path) ↔ path.hasNul = false ∧ tree.look path = .ok .directory := by
  rw [loadDocument, eludes_bind, read_eludes hthere]
  refine or_iff_left ?_
  rintro ⟨bytes, -, h⟩
  rcases eludes_bind.1 h with h | ⟨result, -, h⟩
  · exact readBytes_eludes bytes h
  · cases result with
    | ok document => exact not_eludes_ok _ h
    | error message =>
      obtain ⟨failure, h, hbad⟩ := h
      cases h
      cases hbad

theorem baffles_iff (hthere : tree.exists? path = .ok true) :
    Baffles tree path ↔ (path.hasNul = false ∧ tree.look path = .ok .directory) ∨
      ∃ document, HoldsDocument tree path document ∧ FailsByCount (configPart document path) := by
  constructor
  · intro h
    cases h with
    | directory hnul hlook => exact .inl ⟨hnul, hlook⟩
    | tooLong hnul hlook =>
      rw [exists?_of_tooLong hnul hlook] at hthere
      cases hthere
    | count hdocument hcount => exact .inr ⟨_, hdocument, hcount⟩
  · rintro (⟨hnul, hlook⟩ | ⟨document, hdocument, hcount⟩)
    · exact .directory hnul hlook
    · exact .count hdocument hcount

theorem loadFile_eludes (hthere : tree.exists? path = .ok true) :
    Eludes (loadFile tree path) ↔ Baffles tree path := by
  rw [loadFile, eludes_bind, loadDocument_eludes hthere, baffles_iff hthere]
  simp only [loadDocument_iff, readConfig_eludes]

theorem not_failsByCount_nil : ¬ FailsByCount [] := by
  rintro ⟨-, hrules, -, -⟩
  cases hrules

/-- A project file without a section is passed over here and read as one without rules above, and
neither is a failure. -/
theorem loadProject_eludes {base : Path}
    (hthere : tree.exists? (base.join (.ofText projectName)) = .ok true)
    (hname : (base.join (.ofText projectName)).name = projectName) :
    Eludes (loadProject tree base) ↔ Baffles tree (base.join (.ofText projectName)) := by
  rw [loadProject_there hthere, eludes_bind, loadDocument_eludes hthere, baffles_iff hthere]
  refine or_congr_right (exists_congr fun document => and_congr loadDocument_iff ?_)
  rw [configPart]
  cases toolSection? document with
  | some found => exact readConfig_eludes
  | none =>
    rw [if_pos hname]
    exact iff_of_false (by simp [eludes_error, isBadValue]) not_failsByCount_nil

end Files

/-! ## Searches -/

section Searches

variable {tree : Tree} {path other : Path} {paths : List Path}

theorem reached_nil : ¬ Reached tree [] path := by
  rintro ⟨earlier, later, h, -⟩
  cases earlier <;> cases h

theorem reached_cons :
    Reached tree (other :: paths) path ↔
      path = other ∨ tree.exists? other = .ok false ∧ Reached tree paths path := by
  constructor
  · rintro ⟨earlier, later, h, habsent⟩
    cases earlier with
    | nil => cases h; exact .inl rfl
    | cons first earlier =>
      cases h
      obtain ⟨hfirst, habsent⟩ := List.forall_mem_cons.1 habsent
      exact .inr ⟨hfirst, earlier, later, rfl, habsent⟩
  · rintro (rfl | ⟨hother, earlier, later, rfl, habsent⟩)
    · exact ⟨[], paths, rfl, List.forall_mem_nil _⟩
    · exact ⟨other :: earlier, later, rfl, List.forall_mem_cons.2 ⟨hother, habsent⟩⟩

/-- A path that baffles is not one with nothing there. -/
theorem Baffles.exists?_ne (h : Baffles tree path) : tree.exists? path ≠ .ok false := by
  intro hmissing
  cases h with
  | directory hnul hlook =>
    rw [exists?_of_look hnul hlook] at hmissing
    cases hmissing
  | tooLong hnul hlook =>
    rw [exists?_of_tooLong hnul hlook] at hmissing
    cases hmissing
  | count hdocument hcount =>
    rw [hdocument.exists?_eq] at hmissing
    cases hmissing

/-- What a search comes to at one path, and goes on to behind it. -/
theorem search_eludes (outcome next : Except Failure Config)
    (hfailure : ∀ failure, tree.exists? other = .error failure → outcome = .error failure)
    (hthere : tree.exists? other = .ok true → (Eludes outcome ↔ Baffles tree other))
    (hmissing : tree.exists? other = .ok false → outcome = next)
    (hnext : Eludes next ↔ ∃ path, Reached tree paths path ∧ Baffles tree path) :
    Eludes outcome ↔ ∃ path, Reached tree (other :: paths) path ∧ Baffles tree path := by
  -- a path with something there is the last one that the search comes to
  have hhere : tree.exists? other ≠ .ok false →
      ((∃ path, Reached tree (other :: paths) path ∧ Baffles tree path) ↔ Baffles tree other) := by
    intro hne
    constructor
    · rintro ⟨path, hreached, hbaffles⟩
      rcases reached_cons.1 hreached with rfl | ⟨hmissing, -⟩
      · exact hbaffles
      · exact (hne hmissing).elim
    · exact fun hbaffles => ⟨other, reached_cons.2 (.inl rfl), hbaffles⟩
  cases hexists : tree.exists? other with
  | error failure =>
    obtain ⟨hnul, hlook, hbad⟩ := exists?_eq_error hexists
    rw [hhere (by rw [hexists]; nofun), hfailure failure hexists, eludes_error]
    exact iff_of_true hbad (.tooLong hnul hlook)
  | ok there =>
    cases there with
    | true => rw [hhere (by rw [hexists]; nofun), hthere hexists]
    | false =>
      rw [hmissing hexists, hnext]
      refine exists_congr fun path => and_congr_left fun hbaffles => ?_
      rw [reached_cons]
      constructor
      · exact fun hreached => .inr ⟨hexists, hreached⟩
      · rintro (rfl | ⟨-, hreached⟩)
        · exact (hbaffles.exists?_ne hexists).elim
        · exact hreached

theorem search_ends {failure : Failure} (h : isBadValue failure = true) :
    Eludes (.error failure : Except Failure Config) ↔
      ∃ path, Reached tree [] path ∧ Baffles tree path := by
  refine iff_of_false ?_ ?_
  · simp [eludes_error, h]
  · rintro ⟨path, hreached, -⟩
    exact reached_nil hreached

end Searches

section Configurations

variable {tree : Tree} {repo base : Path}

theorem loadFirst_eludes (hname : (base.join (.ofText projectName)).name = projectName)
    (names : List String) :
    Eludes (loadFirst tree base names) ↔
      ∃ path, Reached tree ((names ++ [projectName]).map fun name => base.join (.ofText name)) path ∧
        Baffles tree path := by
  induction names with
  | nil =>
    refine search_eludes (loadProject tree base) (.error .noConfig) ?_ ?_ ?_ ?_
    · intro failure h
      rw [loadProject, h]
      rfl
    · exact fun hthere => loadProject_eludes hthere hname
    · exact loadProject_absent
    · exact search_ends rfl
  | cons name names ih =>
    refine search_eludes _ (loadFirst tree base names) ?_ ?_ ?_ ih
    · intro failure h
      rw [loadFirst, h]
      rfl
    · intro hthere
      rw [loadFirst_found hthere]
      exact loadFile_eludes hthere
    · intro hmissing
      rw [loadFirst, hmissing]
      rfl

theorem loadConfig_eludes (hnul : repo.hasNul = false) (explicit : Option Path) :
    Eludes (loadConfig tree repo explicit) ↔
      ∃ path, Reached tree (searchedPaths tree repo explicit) path ∧ Baffles tree path := by
  cases explicit with
  | none =>
    have hname : (repoFile tree repo projectName).name = projectName := by
      rw [repoFile_eq tree repo (by decide)]
      simp [Path.name]
    rw [loadConfig_none hnul]
    exact loadFirst_eludes hname configNames
  | some given =>
    have hload : loadConfig tree repo (some given) = _ := loadConfig_some hnul tree rfl
    refine search_eludes _ (.error (.config
      ("Config file does not exist: " ++ ((repo.resolve tree.cwd).join given).text))) ?_ ?_ ?_ ?_
    · intro failure h
      rw [hload, h]
    · intro hthere
      rw [hload, hthere]
      exact loadFile_eludes hthere
    · intro hmissing
      rw [hload, hmissing]
    · exact search_ends rfl

/-- A path with a character that no path holds is refused before anything is looked for. -/
theorem not_eludes_of_hasNul (hnul : repo.hasNul = true) (explicit : Option Path) :
    ¬ Eludes (loadConfig tree repo explicit) := by
  rw [loadConfig_of_hasNul hnul, eludes_error]
  decide

end Configurations

/-! ## Commands -/

namespace Command

/-- The repository, the name of a format and the path of a configuration that a request gives, if it
needs a configuration. -/
def Request.needs? : Request → Option (Path × String × Option Path)
  | .check _ repo format config _ => some (repo, format, config)
  | .showConfig repo format config => some (repo, format, config)
  | .validateConfig repo format config => some (repo, format, config)
  | _ => none

section Commands

variable {world : World} {request : Request} {repo : Path} {name : String} {explicit : Option Path}

/-- The three commands get to their configuration in the same way. -/
theorem execute_needs (world : World) (h : request.needs? = some (repo, name, explicit)) :
    ∃ carryOut, execute world request = withConfig world repo name explicit carryOut := by
  cases request with
  | check commit repo format config verbose => cases h; exact ⟨_, rfl⟩
  | showConfig repo format config => cases h; exact ⟨_, rfl⟩
  | validateConfig repo format config => cases h; exact ⟨_, rfl⟩
  | help | version | initConfig => cases h

theorem withConfig_fails {carryOut : Format → Config → Ending} {failure : Failure}
    (hname : Format.ofName? name ≠ none)
    (h : loadConfig world.tree repo explicit = .error failure) :
    withConfig world repo name explicit carryOut = .broken world
      (if isBadValue failure then badParameter (some "config") failure.message
        else .failure failure) := by
  obtain ⟨format, hformat⟩ := Option.ne_none_iff_exists'.1 hname
  have hload : loadOrRefuse world.tree repo explicit = .error
      (if isBadValue failure then badParameter (some "config") failure.message
        else .failure failure) := by
    rw [loadOrRefuse, h]
    exact (apply_ite Except.error ..).symm
  simp only [withConfig, readFormat, hformat, hload]

/-- A command line that needs a configuration gets one, or it ends with a refusal, unless the first
path that its search comes to leads to a directory, is too long, or holds an expression whose count
is too large. Then the failure of that is what it ends with. -/
theorem obtained_or_refused_iff {line : List String} (hline : readRequest line = .ok request)
    (hneeds : request.needs? = some (repo, name, explicit)) :
    let baffled := Format.ofName? name ≠ none ∧ repo.hasNul = false ∧
      ∃ path, Reached world.tree (searchedPaths world.tree repo explicit) path ∧
        Baffles world.tree path
    ((Returns (loadConfig world.tree repo explicit) ∨
        ∃ hint message, (runLine world line).Refuses hint message) ↔ ¬ baffled) ∧
      (baffled → ∃ failure, loadConfig world.tree repo explicit = .error failure ∧
        (runLine world line).status = 1 ∧ (runLine world line).problem = some (.failure failure)) := by
  intro baffled
  obtain ⟨carryOut, hexecute⟩ := execute_needs world hneeds
  have hrun : runLine world line = withConfig world repo name explicit carryOut := by
    simp only [runLine, hline, hexecute]
  rw [hrun]
  have hbaffled : baffled ↔
      Format.ofName? name ≠ none ∧ Eludes (loadConfig world.tree repo explicit) := by
    cases hnul : repo.hasNul with
    | true => simp [baffled, hnul, not_eludes_of_hasNul hnul]
    | false => simp [baffled, hnul, loadConfig_eludes hnul]
  rw [hbaffled]
  by_cases hname : Format.ofName? name = none
  · -- the format is refused before a configuration is looked for
    refine ⟨iff_of_true (.inr ?_) fun h => h.1 hname, fun h => (h.1 hname).elim⟩
    simp only [withConfig, readFormat, hname]
    exact ⟨_, _, rfl, rfl⟩
  · cases hload : loadConfig world.tree repo explicit with
    | ok config =>
      refine ⟨iff_of_true (.inl (returns_ok config)) fun h => not_eludes_ok _ h.2, ?_⟩
      exact fun h => (not_eludes_ok _ h.2).elim
    | error failure =>
      rw [withConfig_fails hname hload, eludes_error]
      cases hbad : isBadValue failure with
      | true =>
        exact ⟨iff_of_true (.inr ⟨some "config", failure.message, rfl, rfl⟩) (by simp), by simp⟩
      | false =>
        refine ⟨iff_of_false ?_ (not_not_intro ⟨hname, rfl⟩), fun _ => ⟨failure, rfl, rfl, rfl⟩⟩
        rintro (h | ⟨hint, message, hstatus, -⟩)
        · exact not_returns_error h
        · cases hstatus

/-- A directory without the first file, with bytes that are no text in the second one, and with a
directory in place of the third. -/
def strangeWorld : World :=
  { tree := ⟨[([".scanva.toml"], .file [0xff]), (["pyproject.toml"], .directory)], []⟩
    git := none
    now := ⟨2000, 1, 1, 0, 0, 0⟩ }

theorem obtained_or_refused_bytes :
    readRequest ["config"] = .ok (.showConfig ⟨.relative, []⟩ "human" none) ∧
    (Request.showConfig ⟨.relative, []⟩ "human" none).needs? =
      some (⟨.relative, []⟩, "human", none) ∧
    ¬ Returns (loadConfig strangeWorld.tree ⟨.relative, []⟩ none) ∧
    ∃ hint message, (runLine strangeWorld ["config"]).Refuses hint message := by
  have hline : readRequest ["config"] = .ok (.showConfig ⟨.relative, []⟩ "human" none) :=
    ok_of_toOption (by decide +kernel)
  have hload : loadConfig strangeWorld.tree ⟨.relative, []⟩ none =
      .error (.undecodable ⟨.invalidStart, 255, 0, 0⟩) := by decide +kernel
  have hfails : ¬ Returns (loadConfig strangeWorld.tree ⟨.relative, []⟩ none) :=
    hload ▸ not_returns_error
  have hseen : ¬ Eludes (loadConfig strangeWorld.tree ⟨.relative, []⟩ none) := by
    rw [hload, eludes_error]
    decide
  refine ⟨hline, rfl, hfails, ?_⟩
  refine ((obtained_or_refused_iff hline rfl).1.2 ?_).resolve_left hfails
  rintro ⟨-, hnul, hbaffled⟩
  exact hseen ((loadConfig_eludes hnul none).2 hbaffled)

/-- A directory in place of the first file. -/
def directoryWorld : World :=
  { tree := ⟨[(["scanva.toml"], .directory), (["scanva.toml", "x"], .file [121])], []⟩
    git := none
    now := ⟨2000, 1, 1, 0, 0, 0⟩ }

theorem directory_unreported :
    readRequest ["config-validate"] = .ok (.validateConfig ⟨.relative, []⟩ "human" none) ∧
    loadConfig directoryWorld.tree ⟨.relative, []⟩ none =
      .error (.system .isDirectory "'/scanva.toml'") ∧
    ¬ ∃ hint message, (runLine directoryWorld ["config-validate"]).Refuses hint message := by
  have hstatus : (runLine directoryWorld ["config-validate"]).status = 1 := by decide +kernel
  refine ⟨ok_of_toOption (by decide +kernel), by decide +kernel, ?_⟩
  rintro ⟨hint, message, hrefused, -⟩
  rw [hstatus] at hrefused
  cases hrefused

end Commands

end Command

end CommitRules
