import CommitRules.Proofs.Grouping
import CommitRules.Proofs.Names
import CommitRules.Report.Render

/-!
# CommitRules.Proofs.ShownNames

The names of files on their way through a check. Git prints them as seen from the root directory;
a check holds them as paths from the root of the file system; globs and reports go back to names.

* `text_ofText`: a tidy name is what is written for the path it is read as.
* `shownFrom_fileAt`: a tidy name is found again below any directory it was joined to.
* `inScope_filesAt`, `summarize_filesAt`: rules choose files, and reports show them, by their names.
* `names_survive`: all of this for the root that git gives.
-/

namespace CommitRules

open CommitRules.Files
open CommitRules.Text

theorem joinWith_eq_intercalate (mark : Char) (pieces : List (List Char)) :
    joinWith mark pieces = [mark].intercalate pieces := by
  induction pieces with
  | nil => rfl
  | cons piece pieces ih =>
    cases pieces with
    | nil => simp [joinWith]
    | cons next pieces =>
      rw [joinWith_cons mark piece (List.cons_ne_nil _ _), ih, List.intercalate_cons_cons]
      simp

/-! ## Names -/

namespace Files.Path

/-- A name as git prints it: what stands between its slashes is neither empty nor a single dot.
So it does not start with a slash. Nothing here depends on whether there are double dots. -/
def IsTidy (name : String) : Prop :=
  ∀ part ∈ splitAt '/' name.toList, part ≠ [] ∧ part ≠ ['.']

instance (name : String) : Decidable (IsTidy name) :=
  List.decidableBAll _ (splitAt '/' name.toList)

variable {name other : String}

theorem anchor_of_isTidy (h : IsTidy name) : (ofText name).anchor = .relative := by
  have habsolute : ¬ (ofText name).isAbsolute = true := by
    rw [isAbsolute_ofText, List.head?_eq_some_iff]
    rintro ⟨rest, hrest⟩
    rw [IsTidy, hrest, splitAt_mark] at h
    exact (h [] List.mem_cons_self).1 rfl
  simpa [isAbsolute] using habsolute

theorem parts_of_isTidy (h : IsTidy name) :
    (ofText name).parts = (splitAt '/' name.toList).map String.ofList := by
  rw [ofText, partsOf, List.filter_eq_self.2]
  intro part hpart
  simp [h part hpart]

theorem text_ofText (h : IsTidy name) : (ofText name).text = name := by
  have hparts : (ofText name).parts ≠ [] := by
    rw [parts_of_isTidy h]
    simpa using splitAt_ne_nil '/' name.toList
  have hif : ¬ (decide ((ofText name).anchor = .relative) && (ofText name).parts.isEmpty) = true := by
    simp [hparts]
  rw [text, if_neg hif, anchor_of_isTidy h, parts_of_isTidy h, ← String.toList_inj]
  simp only [Anchor.text, String.toList_append, String.toList_intercalate, List.map_map]
  have hsame : String.toList ∘ String.ofList = id := funext fun _ => String.toList_ofList
  rw [hsame, List.map_id]
  exact (joinWith_eq_intercalate '/' _).symm.trans (joinWith_splitAt '/' name.toList)

/-- The path of a file below a directory, in writing. -/
def fileAt (base : Path) (name : String) : String := (base.join (ofText name)).text

variable {base : Path}

theorem shownFrom_fileAt (hbase : base.Clean) (h : IsTidy name) :
    shownFrom (some base) (base.fileAt name) = name := by
  have hbelow : below? base (base.join (ofText name)) = some (ofText name) :=
    below?_join base (anchor_of_isTidy h)
  rw [fileAt, shownFrom_text base (hbase.join (clean_ofText name)), calledFrom, hbelow]
  exact text_ofText h

theorem fileAt_inj (hbase : base.Clean) (h : IsTidy name) (hother : IsTidy other)
    (hsame : base.fileAt name = base.fileAt other) : name = other := by
  rw [← shownFrom_fileAt hbase h, hsame, shownFrom_fileAt hbase hother]

end Files.Path

open Files.Path (IsTidy fileAt shownFrom_fileAt fileAt_inj)

/-! ## Rules -/

section Choosing

variable {α β ε : Type} {test : β → Except ε Bool} {other : α → Except ε Bool} {f : α → β}

theorem filterAuxM_map {items acc : List α} (h : ∀ item ∈ items, test (f item) = other item) :
    (items.map f).filterAuxM test (acc.map f) =
      (items.filterAuxM other acc).map (·.map f) := by
  induction items generalizing acc with
  | nil => rfl
  | cons item items ih =>
    obtain ⟨hitem, h⟩ := List.forall_mem_cons.1 h
    rw [List.map_cons, List.filterAuxM, List.filterAuxM, hitem]
    cases other item with
    | error failure => rfl
    | ok answer =>
      cases answer with
      | false => exact ih h
      | true => exact @ih (item :: acc) h

/-- Choosing from renamed items is renaming the chosen ones, if the tests agree. -/
theorem filterM_map {items : List α} (h : ∀ item ∈ items, test (f item) = other item) :
    (items.map f).filterM test = (items.filterM other).map (·.map f) := by
  have haux := @filterAuxM_map _ _ _ test other f items [] h
  rw [List.map_nil] at haux
  rw [List.filterM, List.filterM, haux]
  cases items.filterAuxM other [] with
  | error failure => rfl
  | ok kept => exact congrArg Except.ok (List.map_reverse (f := f) (l := kept)).symm

end Choosing

section Names

variable {base : Path} {names : List String}

theorem inScope_filesAt (hbase : base.Clean) (h : ∀ name ∈ names, IsTidy name)
    (scope : FileScope) :
    inScope scope (some base) (names.map base.fileAt) =
      (inScope scope none names).map (·.map base.fileAt) := by
  unfold inScope
  cases scope.active? with
  | none => rfl
  | some globs =>
    refine filterM_map fun name hname => ?_
    rw [shownFrom_fileAt hbase (h name hname)]
    rfl

/-! ## Reports -/

def Violation.at (base : Path) (violation : Violation) : Violation :=
  { violation with file := base.fileAt violation.file }

def FileGroup.at (base : Path) (group : FileGroup) : FileGroup :=
  ⟨base.fileAt group.file, group.violations.map (·.at base)⟩

theorem addToGroups_at (hbase : base.Clean) {violation : Violation} {groups : List FileGroup}
    (h : IsTidy violation.file) (hgroups : ∀ group ∈ groups, IsTidy group.file) :
    addToGroups (violation.at base) (groups.map (·.at base)) =
      (addToGroups violation groups).map (·.at base) := by
  induction groups with
  | nil => rfl
  | cons group groups ih =>
    obtain ⟨hgroup, hgroups⟩ := List.forall_mem_cons.1 hgroups
    have hfile : (group.at base).file = (violation.at base).file ↔ group.file = violation.file :=
      ⟨fileAt_inj hbase hgroup h, congrArg base.fileAt⟩
    rw [List.map_cons, addToGroups, addToGroups]
    by_cases hsame : group.file = violation.file
    · rw [if_pos hsame, if_pos (hfile.2 hsame)]
      simp [FileGroup.at]
    · rw [if_neg hsame, if_neg (mt hfile.1 hsame), ih hgroups]
      rfl

theorem isTidy_of_mem_groups {violations : List Violation} {group : FileGroup}
    (h : ∀ violation ∈ violations, IsTidy violation.file) (hgroup : group ∈ groupByFile violations) :
    IsTidy group.file := by
  rw [groupByFile_eq] at hgroup
  obtain ⟨file, hfile, rfl⟩ := List.mem_map.1 hgroup
  obtain ⟨violation, hviolation, rfl⟩ := mem_filesOf.1 hfile
  exact h violation hviolation

theorem groupByFile_at (hbase : base.Clean) {violations : List Violation}
    (h : ∀ violation ∈ violations, IsTidy violation.file) :
    groupByFile (violations.map (·.at base)) = (groupByFile violations).map (·.at base) := by
  induction violations using List.reverseRecOn with
  | nil => rfl
  | append_singleton violations violation ih =>
    have hbefore : ∀ other ∈ violations, IsTidy other.file := fun other hother =>
      h other (List.mem_append_left _ hother)
    rw [List.map_append, groupByFile_append, groupByFile_append, ih hbefore]
    exact addToGroups_at hbase (h violation (by simp)) fun _ => isTidy_of_mem_groups hbefore

theorem countLevel_at (base : Path) (level : Level) (violations : List Violation) :
    countLevel level (violations.map (·.at base)) = countLevel level violations :=
  List.countP_map

theorem summarize_filesAt (hbase : base.Clean) {violations : List Violation}
    (h : ∀ violation ∈ violations, IsTidy violation.file) :
    summarize (violations.map (·.at base)) =
      { summarize violations with groups := (groupByFile violations).map (·.at base) } := by
  simp only [summarize, groupByFile_at hbase h, countLevel_at]

theorem groupLines_at (hbase : base.Clean) {group : FileGroup} (h : IsTidy group.file) :
    groupLines (some base) (group.at base) = groupLines none group := by
  simp only [groupLines, FileGroup.at, shownFrom_fileAt hbase h, List.map_map]
  rfl

theorem violationValue_at (hbase : base.Clean) {violation : Violation}
    (h : IsTidy violation.file) :
    violationValue (some base) (violation.at base) = violationValue none violation := by
  simp only [violationValue, Violation.at, shownFrom_fileAt hbase h]
  rfl

/-- Reports show files below a directory as they show their names without one. -/
theorem reports_at (hbase : base.Clean) {violations : List Violation} {context : ReportContext}
    (h : ∀ violation ∈ violations, IsTidy violation.file)
    (hmatched : ∀ name ∈ context.matched, IsTidy name) :
    (summarize (violations.map (·.at base))).text (some base) = (summarize violations).text none ∧
    (summarize (violations.map (·.at base))).toValue
        { context with matched := context.matched.map base.fileAt, root := some base } =
      (summarize violations).toValue { context with root := none } := by
  have hmem : ∀ violation ∈ (groupByFile violations).flatMap (·.violations),
      IsTidy violation.file := fun violation hviolation =>
    h violation ((groupByFile_perm violations).mem_iff.1 hviolation)
  rw [summarize_filesAt hbase h]
  constructor
  · have hlines : ((groupByFile violations).map (·.at base)).flatMap (groupLines (some base)) =
        (groupByFile violations).flatMap (groupLines none) := by
      rw [List.flatMap_map, List.flatMap_def, List.flatMap_def]
      refine congrArg List.flatten (List.map_congr_left fun group hgroup => ?_)
      exact groupLines_at hbase (isTidy_of_mem_groups h hgroup)
    simp only [Summary.text, Summary.total, hlines]
    rfl
  · have hentries :
        (((groupByFile violations).map (·.at base)).flatMap (·.violations)).map
            (violationValue (some base)) =
          ((groupByFile violations).flatMap (·.violations)).map (violationValue none) := by
      have hflat : ((groupByFile violations).map (·.at base)).flatMap (·.violations) =
          ((groupByFile violations).flatMap (·.violations)).map (·.at base) := by
        rw [List.flatMap_map, List.map_flatMap]
        rfl
      rw [hflat, List.map_map]
      exact List.map_congr_left fun violation hviolation =>
        violationValue_at hbase (hmem violation hviolation)
    have hshown : context.matched.map (fun name =>
          Value.text (Path.shownFrom (some base) (base.fileAt name))) =
        context.matched.map Value.text :=
      List.map_congr_left fun name hname =>
        congrArg Value.text (shownFrom_fileAt hbase (hmatched name hname))
    simp only [Summary.toValue, hentries, List.map_map, Function.comp_def, hshown]
    rfl

end Names

/-! ## Git -/

namespace Git

variable {tool : Tool} {tree : Tree} {repo found : Path}

theorem clean_root (h : (root tool tree repo).outcome = .ok found) : found.Clean := by
  obtain ⟨output, -, rfl⟩ := root_ok h
  exact Path.clean_ofText (strip output)

/-- Below the root that git gives, however that is written, every name as git prints it is the name
again that globs are applied to and that reports show. The files of a commit are the names below
that root, different names are different files, a rule chooses files as it would choose names, and
both reports about files are those about the names. -/
theorem names_survive (hroot : (root tool tree repo).outcome = .ok found) :
    (∀ commit output, (call tool tree repo
        ["diff-tree", "-z", "--no-commit-id", "--name-only", "-r", commit]).outcome = .ok output →
      (files tool tree repo commit).outcome = .ok ((namesOf output).map found.fileAt)) ∧
    (∀ name, IsTidy name → Path.shownFrom (some found) (found.fileAt name) = name) ∧
    (∀ name other, IsTidy name → IsTidy other → name ≠ other →
      found.fileAt name ≠ found.fileAt other) ∧
    (∀ names scope, (∀ name ∈ names, IsTidy name) →
      inScope scope (some found) (names.map found.fileAt) =
        (inScope scope none names).map (·.map found.fileAt)) ∧
    ∀ (violations : List Violation) (context : ReportContext),
      (∀ violation ∈ violations, IsTidy violation.file) →
      (∀ name ∈ context.matched, IsTidy name) →
      (summarize (violations.map (·.at found))).text (some found) =
          (summarize violations).text none ∧
        (summarize (violations.map (·.at found))).toValue
            { context with matched := context.matched.map found.fileAt, root := some found } =
          (summarize violations).toValue { context with root := none } := by
  have hclean := clean_root hroot
  refine ⟨fun commit output hcall => files_of_root hroot hcall,
    fun name hname => shownFrom_fileAt hclean hname, ?_,
    fun names scope hnames => inScope_filesAt hclean hnames scope,
    fun violations context => reports_at hclean⟩
  intro name other hname hother hdifferent hsame
  exact hdifferent (fileAt_inj hclean hname hother hsame)

/-- The root of everything, written with two slashes, and a name with blanks and double dots. -/
theorem names_survive_double_slash :
    (root (some (printing "//\n" "..x/ a\t.ts\x00")) threeFiles ⟨.root, ["r"]⟩).outcome =
      .ok ⟨.doubleRoot, []⟩ ∧
    IsTidy "..x/ a\t.ts" ∧
    Path.fileAt ⟨.doubleRoot, []⟩ "..x/ a\t.ts" = "//..x/ a\t.ts" ∧
    Path.shownFrom (some ⟨.doubleRoot, []⟩) "//..x/ a\t.ts" = "..x/ a\t.ts" := by
  have hroot : (root (some (printing "//\n" "..x/ a\t.ts\x00")) threeFiles
      ⟨.root, ["r"]⟩).outcome = .ok ⟨.doubleRoot, []⟩ := ok_of_toOption (by decide +kernel)
  have htidy : IsTidy "..x/ a\t.ts" := by decide +kernel
  have hfile : Path.fileAt ⟨.doubleRoot, []⟩ "..x/ a\t.ts" = "//..x/ a\t.ts" := by decide +kernel
  have hshown := (names_survive hroot).2.1 _ htidy
  rw [hfile] at hshown
  exact ⟨hroot, htidy, hfile, hshown⟩

end Git

end CommitRules
