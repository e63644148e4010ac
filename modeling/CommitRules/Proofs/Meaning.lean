import CommitRules.Check.Evaluate
import CommitRules.Proofs.Runs

/-!
# CommitRules.Proofs.Meaning

What a rule means for the files of a change, said file by file: which of them it covers, which of
them it concerns, what is flagged, and what is told about it. Nothing here can fail.

* `select_ok`: the files a rule selects are those it covers.
* `concerned_ok`: of the files in its scope, a rule is about those it concerns.
-/

namespace CommitRules

open CommitRules.Files

/-! ## Files -/

namespace Files.Tree

/-- Whether something is there at a path. -/
def holds (tree : Tree) (path : Path) : Bool :=
  !path.hasNul &&
    match tree.look path with
    | .ok _ => true
    | .error _ => false

/-- The first lines of the file at a path, if there is a file. -/
def headOf? (tree : Tree) (path : Path) (count : Nat) : Option (List Char) :=
  match tree.look path with
  | .ok (.file bytes) => some (firstLines count (textOf bytes))
  | _ => none

theorem exists?_ok {tree : Tree} {path : Path} {answer : Bool}
    (h : tree.exists? path = .ok answer) : answer = tree.holds path := by
  unfold exists? at h
  unfold holds
  split at h
  · rename_i hn; cases h; simp [hn]
  · rename_i hn
    split at h
    · rename_i entry hl; cases h; simp [hn, hl]
    · cases h
    · rename_i error _ hl; cases h; simp [hl]

theorem read_ok {tree : Tree} {path : Path} {bytes : List UInt8}
    (h : tree.read path = .ok bytes) : tree.look path = .ok (.file bytes) := by
  unfold read at h
  split at h
  · cases h
  · split at h
    · rename_i hl; cases h; exact hl
    · cases h
    · cases h

end Files.Tree

theorem readHead_ok {tree : Tree} {file : String} {count : Nat} {text : List Char}
    (h : readHead tree file count = .ok text) :
    tree.headOf? (.ofText file) count = some text := by
  unfold readHead at h
  cases he : tree.exists? (.ofText file) with
  | error failure => simp [he, bind, Except.bind] at h
  | ok found =>
    cases hr : tree.read (.ofText file) with
    | error failure => cases found <;> simp [he, hr, bind, Except.bind] at h
    | ok bytes =>
      have hl := Tree.read_ok hr
      simp only [he, hr, bind, Except.bind] at h
      split at h
      · cases h
      · split at h
        · cases h
        · cases h
          simp [Tree.headOf?, hl]

/-! ## Rules -/

/-- Whether the globs of a scope, if it has any, take in what a file is called. -/
def FileScope.admits (scope : FileScope) (name : String) : Bool :=
  match scope.active? with
  | none => true
  | some globs =>
    match Glob.takes globs name with
    | .ok answer => answer
    | .error _ => false

namespace Rule

variable (rule : Rule) (place : Place) (diff : List Char) (files : List String)

/-- Whether a file is there and in the scope of a rule, as it is called from the root. -/
def covers (file : String) : Bool :=
  place.tree.holds (.ofText file) && rule.files.admits (Path.shownFrom place.root file)

/-- Whether the head of a file holds what a rule looks for, if it looks for anything. -/
def concerns (tree : Tree) (file : String) : Bool :=
  match rule.find with
  | none => true
  | some find => (tree.headOf? (.ofText file) rule.head).any find.isIn

/-- The files in the scope of a rule. -/
def covered : List String := files.filter (rule.covers place)

/-- The files in its scope that a rule concerns. -/
def concernedOf : List String := (rule.covered place files).filter (rule.concerns place.tree)

/-- The files that break a rule: all it concerns or, if the change does not hold what the rule
searches for, none. -/
def flaggedOf : List Flagged :=
  if rule.search.isIn diff then
    (rule.concernedOf place files).map fun file => ⟨file, rule, rule.level⟩
  else []

/-- What applying a rule comes to. -/
def resultOf : RuleResult :=
  ⟨rule, rule.covered place files, rule.concernedOf place files, rule.flaggedOf place diff files⟩

/-- What is told about a file that a rule concerns. -/
def toldOfFile (file : String) : List Event :=
  .matched file :: if rule.search.isIn diff then [.violation file rule rule.level] else []

/-- What is told about a rule: every file it concerns, and then that it has been applied. -/
def toldOf : List Event :=
  (rule.concernedOf place files).flatMap (rule.toldOfFile diff) ++
    [.processed rule (rule.concernedOf place files)]

end Rule

theorem inScope_ok {scope : FileScope} {root : Option Path} {files kept : List String}
    (h : inScope scope root files = .ok kept) :
    kept = files.filter fun file => scope.admits (Path.shownFrom root file) := by
  unfold inScope at h
  cases ha : scope.active? with
  | none =>
    simp only [ha] at h
    cases h
    exact (List.filter_eq_self.2 fun file _ => by simp [FileScope.admits, ha]).symm
  | some globs =>
    simp only [ha] at h
    refine filterM_ok ?_ h
    intro file _ answer ht
    simp [FileScope.admits, ha, ht]

theorem select_ok {place : Place} {rule : Rule} {files kept : List String}
    (h : select place.tree rule.files place.root files = .ok kept) :
    kept = rule.covered place files := by
  unfold select at h
  cases hs : inScope rule.files place.root files with
  | error failure => simp [hs, bind, Except.bind] at h
  | ok inside =>
    simp only [hs, bind, Except.bind] at h
    have hpresent := filterM_ok (fun file _ _ => Tree.exists?_ok) h
    rw [hpresent, inScope_ok hs, List.filter_filter]
    rfl

theorem concerned_ok {tree : Tree} {rule : Rule} {files kept : List String}
    (h : concerned tree rule files = .ok kept) : kept = files.filter (rule.concerns tree) := by
  unfold concerned at h
  cases hf : rule.find with
  | none =>
    simp only [hf] at h
    cases h
    exact (List.filter_eq_self.2 fun file _ => by simp [Rule.concerns, hf]).symm
  | some find =>
    simp only [hf] at h
    refine filterM_ok ?_ h
    intro file _ answer ht
    unfold headHolds at ht
    cases hr : readHead tree file rule.head with
    | error failure => rw [hr] at ht; cases ht
    | ok text => rw [hr] at ht; cases ht; simp [Rule.concerns, hf, readHead_ok hr]

end CommitRules
