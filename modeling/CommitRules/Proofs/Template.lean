import CommitRules.Proofs.Encoding
import CommitRules.Proofs.FileChanges
import CommitRules.Proofs.Precedence

/-!
# CommitRules.Proofs.Template

Whether the configuration that is written to start from is read again from where it was written.

It holds three rules (`template_document`), but a file may be written where they are not found:
under the name of the project file, of which only a section counts, and at a path that means a place
and does not lead there, since what is written is written at the place, and what is read is read
along the path.

* `Writes.written`: what is there after a configuration has been written.
* `init_reads_back`: when it is read again, and what comes of it if it is not.
-/

namespace CommitRules

open CommitRules.Files
open CommitRules.Text

/-! ## The template -/

/-- The rules of the configuration to start from. -/
def templateRules : List Rule :=
  [⟨"console.log left in source", .error,
      .several ["src/**/*.\x7bts,js\x7d", "!**/*.test.\x7bts,js\x7d"],
      some (.literal "console.log"), 10⟩,
    ⟨"TODO", .warning, .one "**/*.py", some (.anyOf ["TODO", "FIXME"]), 50⟩,
    ⟨"debugger statement", .error, .all,
      (RegexPattern.ofSource "\\bdebugger\\b" "i").toOption.map .regex, 10⟩]

/-- Whether a text is a document without a section, and a configuration with the rules of the
template. -/
def statesTemplate (text : List Char) : Bool :=
  match Toml.readDocument (unifyReturnPairs text) with
  | .error _ => false
  | .ok document =>
    (toolSection? document).isNone &&
      (readConfig document none).toOption == some ⟨templateRules, none⟩

theorem configTemplate_states : statesTemplate configTemplate.toList = true := by
  unfold configTemplate templateLines textSetting textList
  simp only [String.toList_intercalate, List.map_cons, List.map_nil, String.toList_append,
    String.toList_singleton]
  decide +kernel

/-- The source of a configuration is only noted. -/
theorem readConfig_source {document : Table} {source : Option String} {rules : List Rule}
    (h : readConfig document source = .ok ⟨rules, source⟩) (other : Option String) :
    readConfig document other = .ok ⟨rules, other⟩ :=
  readConfig_iff.2 ⟨rfl, (readConfig_iff.1 h).2⟩

theorem document_of_states {text : String} (h : statesTemplate text.toList = true) :
    ∃ document, Toml.readBytes (Utf8.encode text) = .ok (.ok document) ∧
      (∀ found, ¬ HasSection document found) ∧
      ∀ source, readConfig document source = .ok ⟨templateRules, source⟩ := by
  unfold statesTemplate at h
  split at h
  · cases h
  · next document hdocument =>
    rw [Bool.and_eq_true, Option.isNone_iff_eq_none, beq_iff_eq] at h
    refine ⟨document, ?_, fun found hfound => ?_, readConfig_source (ok_of_toOption h.2)⟩
    · rw [Toml.readBytes, Utf8.decodeChars_encode]
      simp only [hdocument]
    · rw [toolSection?_iff.2 hfound] at h
      cases h.1

theorem template_document : ∃ document,
    Toml.readBytes Command.templateBytes = .ok (.ok document) ∧
    (∀ found, ¬ HasSection document found) ∧
    ∀ source, readConfig document source = .ok ⟨templateRules, source⟩ :=
  document_of_states configTemplate_states

namespace Command

variable {tree : Tree} {call : Call} {out repo : Path} {cwd : List String}

/-! ## After writing -/

/-- A command line has asked for a configuration at a path, and it has been written. -/
structure Writes (call : Call) (tree : Tree) (out : Path) : Prop where
  sound : tree.Sound
  line : ∃ force, readRequest call.line = .ok (.initConfig out force)
  status : (call.run tree).status = 0

namespace Writes

theorem written (h : Writes call tree out) :
    (call.run tree).tree.Sound ∧ (call.run tree).tree.cwd = tree.cwd ∧
      (call.run tree).tree.entry? (out.resolve tree.cwd).parts = some (.file templateBytes) ∧
      (call.run tree).tree.read (out.resolve tree.cwd) = .ok templateBytes := by
  obtain ⟨force, hline⟩ := h.line
  have hkeeps := call_keeps h.sound call
  rw [Call.Keeps, Call.target?, hline] at hkeeps
  exact ⟨hkeeps.sound, hkeeps.cwd, (hkeeps.written h.status).2⟩

theorem same_cwd (h : Writes call tree out) : (call.run tree).tree.cwd = tree.cwd := h.written.2.1

end Writes

/-- A path means the same from a repository as from the working directory. -/
def MeansSame (cwd : List String) (repo out : Path) : Prop :=
  out.isAbsolute = true ∨ repo.resolve cwd = ⟨.root, cwd⟩

namespace MeansSame

theorem resolveDots_join (h : MeansSame cwd repo out) :
    Path.resolveDots ((repo.resolve cwd).join out).parts = (out.resolve cwd).parts := by
  unfold Path.join
  split
  · next habsolute => rw [Path.resolve, if_pos habsolute]
  · next hrelative =>
    rw [h.resolve_left hrelative, Path.resolve, if_neg hrelative]

/-- Without double dots, and with no more slashes at the start than it takes, there is nothing in a
path to be resolved. -/
theorem join_eq_resolve (h : MeansSame cwd repo out) (hcwd : ".." ∉ cwd) (hdots : ".." ∉ out.parts)
    (hanchor : out.anchor ≠ .doubleRoot) : (repo.resolve cwd).join out = out.resolve cwd := by
  obtain ⟨anchor, parts⟩ := out
  cases anchor with
  | doubleRoot => exact absurd rfl hanchor
  | root =>
    have hjoin : (repo.resolve cwd).join ⟨.root, parts⟩ = ⟨.root, parts⟩ := rfl
    have hresolve : Path.resolve cwd ⟨.root, parts⟩ = ⟨.root, Path.resolveDots parts⟩ := rfl
    rw [hjoin, hresolve, Path.resolveDots_of_not_mem hdots]
  | relative =>
    have hresolve : Path.resolve cwd ⟨.relative, parts⟩ =
        ⟨.root, Path.resolveDots (cwd ++ parts)⟩ := rfl
    have hall : ".." ∉ cwd ++ parts := fun hmem => (List.mem_append.1 hmem).elim hcwd hdots
    rw [h.resolve_left nofun, hresolve, Path.resolveDots_of_not_mem hall]
    rfl

end MeansSame

namespace Writes

/-- What is written is what is read, if the path leads to it. -/
theorem read_eq (h : Writes call tree out) (hsame : MeansSame tree.cwd repo out)
    (hexists : (call.run tree).tree.exists? ((repo.resolve tree.cwd).join out) = .ok true) :
    (call.run tree).tree.read ((repo.resolve tree.cwd).join out) = .ok templateBytes := by
  obtain ⟨hsound, -, hentry, -⟩ := h.written
  refine hsound.read_of_exists (Path.isAbsolute_join_resolve tree.cwd repo out) hexists ?_
  rw [hsame.resolveDots_join, hentry]

theorem exists?_eq (h : Writes call tree out) (hsame : MeansSame tree.cwd repo out)
    (hdots : ".." ∉ out.parts) (hanchor : out.anchor ≠ .doubleRoot) :
    (call.run tree).tree.exists? ((repo.resolve tree.cwd).join out) = .ok true := by
  obtain ⟨-, -, -, hread⟩ := h.written
  rw [hsame.join_eq_resolve (h.sound.not_mem_dots h.sound.here) hdots hanchor]
  exact exists?_of_read ⟨templateBytes, hread⟩

theorem loadConfig_eq (h : Writes call tree out) (hrepo : repo.hasNul = false)
    (hsame : MeansSame tree.cwd repo out)
    (hexists : (call.run tree).tree.exists? ((repo.resolve tree.cwd).join out) = .ok true) :
    loadConfig (call.run tree).tree repo (some out) =
      .ok ⟨if ((repo.resolve tree.cwd).join out).name = projectName then [] else templateRules,
        some ((repo.resolve tree.cwd).join out).text⟩ := by
  obtain ⟨document, hbytes, hnone, hrules⟩ := template_document
  have hdocument : HoldsDocument (call.run tree).tree ((repo.resolve tree.cwd).join out) document :=
    ⟨templateBytes, h.read_eq hsame hexists, hbytes⟩
  rw [loadConfig_some hrepo _ (by rw [h.same_cwd]), hexists]
  by_cases hname : ((repo.resolve tree.cwd).join out).name = projectName
  · rw [if_pos hname]
    exact loadFile_bare hdocument hnone hname
  · rw [if_neg hname]
    exact (loadFile_whole hdocument hnone hname).trans (hrules _)

end Writes

/-! ## Reading again -/

/-- What comes of a configuration that was written at a path, and is read again at that path. -/
structure ReadsBack (after : Tree) (repo out path : Path) : Prop where
  /-- It is the template exactly if the path leads somewhere and is not that of a project file. -/
  same : loadConfig after repo (some out) = .ok ⟨templateRules, some path.text⟩ ↔
    after.exists? path = .ok true ∧ path.name ≠ projectName
  /-- Then it is what every command with a configuration works with. -/
  used : after.exists? path = .ok true → path.name ≠ projectName →
    ∀ {world : World} {name : String} {format : Format} (carryOut : Format → Config → Ending),
      world.tree = after → Format.ofName? name = some format →
      withConfig world repo name (some out) carryOut =
        carryOut format ⟨templateRules, some path.text⟩
  /-- Nothing is found in a project file, and nothing is wrong with it. -/
  project : after.exists? path = .ok true → path.name = projectName →
    loadConfig after repo (some out) = .ok ⟨[], some path.text⟩
  missing : after.exists? path = .ok false →
    loadConfig after repo (some out) =
      .error (.config ("Config file does not exist: " ++ path.text))
  /-- The path leads there if there is nothing in it to be resolved. -/
  direct : ".." ∉ out.parts → out.anchor ≠ .doubleRoot → after.exists? path = .ok true

/-- A configuration that has been written is read again, as it was written, exactly if the path
leads to where it was written and is not that of a project file. -/
theorem init_reads_back (h : Writes call tree out) (hrepo : repo.hasNul = false)
    (hsame : MeansSame tree.cwd repo out) :
    ReadsBack (call.run tree).tree repo out ((repo.resolve tree.cwd).join out) := by
  have hload := loadConfig_some hrepo (call.run tree).tree
    (congrArg (fun cwd => (repo.resolve cwd).join out) h.same_cwd)
  constructor
  · constructor
    · intro hback
      have hexists : (call.run tree).tree.exists? ((repo.resolve tree.cwd).join out) =
          .ok true := by
        rw [hload] at hback
        split at hback
        · cases hback
        · cases hback
        · assumption
      refine ⟨hexists, fun hname => ?_⟩
      rw [h.loadConfig_eq hrepo hsame hexists, if_pos hname] at hback
      cases hback
    · rintro ⟨hexists, hname⟩
      rw [h.loadConfig_eq hrepo hsame hexists, if_neg hname]
  · intro hexists hname world name format carryOut hworld hformat
    rw [withConfig, readFormat, hformat]
    dsimp only
    rw [loadOrRefuse, hworld, h.loadConfig_eq hrepo hsame hexists, if_neg hname]
  · intro hexists hname
    rw [h.loadConfig_eq hrepo hsame hexists, if_pos hname]
  · intro hexists
    rw [hload, hexists]
  · exact h.exists?_eq hsame

/-- Where there is nothing yet. -/
def emptyTree : Tree := ⟨[], []⟩

def initCall (out : String) : Call := ⟨["config-init", "--out", out], none, ⟨2000, 1, 1, 0, 0, 0⟩⟩

theorem emptyTree_sound : emptyTree.Sound :=
  Tree.sound_of_entries (by decide +kernel) (by decide +kernel) (by decide +kernel)

theorem init_reads_back_below :
    Writes (initCall "new/scanva.toml") emptyTree (.ofText "new/scanva.toml") ∧
    (Path.ofText ".").hasNul = false ∧ MeansSame [] (.ofText ".") (.ofText "new/scanva.toml") ∧
    loadConfig ((initCall "new/scanva.toml").run emptyTree).tree (.ofText ".")
      (some (.ofText "new/scanva.toml")) = .ok ⟨templateRules, some "/new/scanva.toml"⟩ := by
  have hwrites : Writes (initCall "new/scanva.toml") emptyTree (.ofText "new/scanva.toml") :=
    ⟨emptyTree_sound, ⟨false, by decide +kernel⟩, by decide +kernel⟩
  have hrepo : (Path.ofText ".").hasNul = false := by decide +kernel
  have hsame : MeansSame [] (.ofText ".") (.ofText "new/scanva.toml") := .inr (by decide +kernel)
  have hback := init_reads_back hwrites hrepo hsame
  have htext : ((Path.ofText ".").resolve emptyTree.cwd).join (.ofText "new/scanva.toml") =
      ⟨.root, ["new", "scanva.toml"]⟩ := by decide +kernel
  rw [htext] at hback
  exact ⟨hwrites, hrepo, hsame, hback.same.2 ⟨by decide +kernel, by decide +kernel⟩⟩

/-- What is written as a project file is read as a configuration without rules, and what is written
past a directory that is not there is not found. -/
theorem init_read_differently :
    templateRules ≠ [] ∧
    (((initCall "pyproject.toml").run emptyTree).status = 0 ∧
      loadConfig ((initCall "pyproject.toml").run emptyTree).tree (.ofText ".")
        (some (.ofText "pyproject.toml")) = .ok ⟨[], some "/pyproject.toml"⟩) ∧
    (((initCall "a/../b.toml").run emptyTree).status = 0 ∧
      loadConfig ((initCall "a/../b.toml").run emptyTree).tree (.ofText ".")
        (some (.ofText "a/../b.toml")) =
        .error (.config "Config file does not exist: /a/../b.toml")) := by
  have hwrites : Writes (initCall "pyproject.toml") emptyTree (.ofText "pyproject.toml") :=
    ⟨emptyTree_sound, ⟨false, by decide +kernel⟩, by decide +kernel⟩
  have hsame : MeansSame [] (.ofText ".") (.ofText "pyproject.toml") := .inr (by decide +kernel)
  have hload := hwrites.loadConfig_eq (by decide +kernel) hsame (by decide +kernel)
  have htext : ((Path.ofText ".").resolve emptyTree.cwd).join (.ofText "pyproject.toml") =
      ⟨.root, ["pyproject.toml"]⟩ := by decide +kernel
  rw [htext, if_pos (by decide +kernel)] at hload
  exact ⟨nofun, ⟨hwrites.status, hload⟩, by decide +kernel, by decide +kernel⟩

end Command

end CommitRules
