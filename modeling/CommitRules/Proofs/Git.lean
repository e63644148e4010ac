import CommitRules.Check.Git
import CommitRules.Proofs.Ledger

/-!
# CommitRules.Proofs.Git

What git answers, read as a root directory and as the files of a commit.

* `root_ok`, `files_ok`: what has been asked and answered when there is a root or a list of files.
* `toldIn_root`, `toldIn_files`, `toldIn_change`: asking git tells a listener nothing.
-/

namespace CommitRules

open CommitRules.Files
open CommitRules.Text

namespace Git

variable {tool : Tool} {tree : Tree} {repo : Path}

theorem toldIn_call (arguments : List String) :
    toldIn (call tool tree repo arguments).trace = [] := by
  unfold call
  split
  · rfl
  · split
    · rfl
    · rfl
    · exact toldIn_bind rfl fun _ => rfl

theorem toldIn_root : toldIn (root tool tree repo).trace = [] := by
  refine toldIn_bind (toldIn_call _) fun output => ?_
  dsimp only
  split <;> rfl

theorem toldIn_files (commit : String) : toldIn (files tool tree repo commit).trace = [] := by
  refine toldIn_bind (toldIn_call _) fun output => ?_
  split
  · rfl
  · exact toldIn_bind toldIn_root fun _ => rfl

theorem toldIn_change (commit : String) : toldIn (change tool tree repo commit).trace = [] :=
  toldIn_call _

theorem root_ok {found : Path} (h : (root tool tree repo).outcome = .ok found) :
    ∃ output, (call tool tree repo ["rev-parse", "--show-toplevel"]).outcome = .ok output ∧
      found = .ofText (strip output) := by
  obtain ⟨output, hcall, h⟩ := Run.bind_ok h
  refine ⟨output, hcall, ?_⟩
  dsimp only at h
  split at h
  · cases h
  · exact (Except.ok.inj h).symm

theorem files_ok {commit : String} {found : Path} {listed : List String}
    (hroot : (root tool tree repo).outcome = .ok found)
    (h : (files tool tree repo commit).outcome = .ok listed) :
    ∃ output, (call tool tree repo
        ["diff-tree", "-z", "--no-commit-id", "--name-only", "-r", commit]).outcome = .ok output ∧
      listed = (namesOf output).map fun name => (found.join (.ofText name)).text := by
  obtain ⟨output, hcall, h⟩ := Run.bind_ok h
  refine ⟨output, hcall, ?_⟩
  -- without names the root is not asked for
  split at h
  · rename_i hnames; cases h; rw [hnames]; rfl
  · obtain ⟨other, hother, h⟩ := Run.bind_ok h
    rw [hroot] at hother
    cases hother
    cases h
    rfl

theorem files_of_root {commit output : String} {found : Path}
    (hroot : (root tool tree repo).outcome = .ok found)
    (hcall : (call tool tree repo
      ["diff-tree", "-z", "--no-commit-id", "--name-only", "-r", commit]).outcome = .ok output) :
    (files tool tree repo commit).outcome =
      .ok ((namesOf output).map fun name => (found.join (.ofText name)).text) := by
  rw [files, Run.bind_of_ok hcall]
  cases namesOf output with
  | nil => rfl
  | cons name names =>
    dsimp only
    rw [Run.bind_of_ok hroot]
    rfl

/-- What git answers when it is asked for the root, for the names of the files of a commit, and for
its change. -/
structure Answers (tool : Tool) (tree : Tree) (repo : Path) (commit : String)
    (rootText nameText diff : String) : Prop where
  root : (call tool tree repo ["rev-parse", "--show-toplevel"]).outcome = .ok rootText
  names : (call tool tree repo
    ["diff-tree", "-z", "--no-commit-id", "--name-only", "-r", commit]).outcome = .ok nameText
  change : (change tool tree repo commit).outcome = .ok diff

end Git

end CommitRules
