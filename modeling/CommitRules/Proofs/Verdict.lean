import CommitRules.Command.Execute
import CommitRules.Proofs.Git
import CommitRules.Proofs.Paths
import CommitRules.Proofs.Told

/-!
# CommitRules.Proofs.Verdict

How the check of a commit ends: with status 1 if a rule of level error is broken, and else with 0.

* `isBroken_iff`: a rule is broken by a name if the file with that name is one of those it flags.
* `check_status_iff`: the status of a check, from what git answers and what is in the files.
-/

namespace CommitRules

open CommitRules.Files
open CommitRules.Text

/-! ## Broken rules -/

/-- What the file with a name below `root` is called there; one given from the root of all files is
called by its whole path if it does not lie below. -/
def calledBelow (root : Path) (name : String) : String :=
  (Path.calledFrom root (root.join (.ofText name))).text

theorem calledBelow_of_relative (root : Path) {name : String}
    (h : (Path.ofText name).anchor = .relative) :
    calledBelow root name = (Path.ofText name).text := by
  rw [calledBelow, Path.calledFrom, Path.below?_join root h, Option.getD_some]

/-- The conditions under which the file with a name below `root` breaks a rule. -/
structure Rule.IsBroken (rule : Rule) (tree : Tree) (root : Path) (diff : List Char)
    (name : String) : Prop where
  there : tree.holds (root.join (.ofText name)) = true
  taken : ∀ globs, rule.files.active? = some globs →
    Glob.takes globs (calledBelow root name) = .ok true
  found : ∀ find, rule.find = some find →
    ∃ text, tree.headOf? (root.join (.ofText name)) rule.head = some text ∧ find.isIn text = true
  changed : diff ≠ []
  matching : rule.search.isIn diff = true

theorem FileScope.admits_iff {scope : FileScope} {name : String} :
    scope.admits name = true ↔
      ∀ globs, scope.active? = some globs → Glob.takes globs name = .ok true := by
  unfold admits
  cases ha : scope.active? with
  | none => simp
  | some globs =>
    simp only [Option.some.injEq, forall_eq']
    cases Glob.takes globs name <;> simp

theorem Rule.concerns_iff {rule : Rule} {tree : Tree} {file : String} :
    rule.concerns tree file = true ↔
      ∀ find, rule.find = some find →
        ∃ text, tree.headOf? (.ofText file) rule.head = some text ∧ find.isIn text = true := by
  unfold concerns
  cases rule.find with
  | none => simp
  | some find => simp [Option.any_eq_true]

theorem Find.ne_nil_of_isIn {find : Find} {text : List Char} (h : find.isIn text = true) :
    text ≠ [] := by
  rintro rfl
  cases h

theorem isBroken_iff {rule : Rule} {tree : Tree} {root : Path} (hroot : root.Clean)
    {diff : List Char} {name : String} :
    rule.IsBroken tree root diff name ↔
      (rule.covers ⟨tree, some root⟩ (root.join (.ofText name)).text = true ∧
        rule.concerns tree (root.join (.ofText name)).text = true) ∧
      rule.search.isIn diff = true := by
  have hclean : (root.join (.ofText name)).Clean := hroot.join (Path.clean_ofText name)
  have hpath : Path.ofText (root.join (.ofText name)).text = root.join (.ofText name) :=
    Path.ofText_text hclean
  have hcalled : Path.shownFrom (some root) (root.join (.ofText name)).text =
      calledBelow root name := Path.shownFrom_text root hclean
  rw [Rule.covers, Rule.concerns_iff, hpath, hcalled, Bool.and_eq_true, FileScope.admits_iff]
  constructor
  · intro h
    exact ⟨⟨⟨h.there, h.taken⟩, h.found⟩, h.matching⟩
  · rintro ⟨⟨⟨hthere, htaken⟩, hfound⟩, hmatching⟩
    exact ⟨hthere, htaken, hfound, Find.ne_nil_of_isIn hmatching, hmatching⟩

theorem exists_flagged_iff {rule : Rule} {tree : Tree} {root : Path} (hroot : root.Clean)
    {diff : List Char} {names : List String} :
    (∃ flagged, flagged ∈ rule.flaggedOf ⟨tree, some root⟩ diff
        (names.map fun name => (root.join (.ofText name)).text)) ↔
      ∃ name ∈ names, rule.IsBroken tree root diff name := by
  constructor
  · rintro ⟨flagged, hflagged⟩
    obtain ⟨file, hfile, hbroken, _⟩ := mem_flaggedOf.1 hflagged
    obtain ⟨name, hname, rfl⟩ := List.mem_map.1 hfile
    exact ⟨name, hname, (isBroken_iff hroot).2 hbroken⟩
  · rintro ⟨name, hname, hbroken⟩
    exact ⟨_, mem_flaggedOf.2
      ⟨_, List.mem_map_of_mem hname, (isBroken_iff hroot).1 hbroken, rfl⟩⟩

/-- Whether one of several names breaks a rule of level error. -/
def Config.IsBroken (config : Config) (tree : Tree) (root : Path) (diff : List Char)
    (names : List String) : Prop :=
  ∃ rule ∈ config.rules, rule.level = .error ∧ ∃ name ∈ names, rule.IsBroken tree root diff name

theorem Config.isBroken_congr {config other : Config}
    (h : ∀ rule, rule.level = .error → (rule ∈ other.rules ↔ rule ∈ config.rules)) {tree : Tree}
    {root : Path} {diff : List Char} {names : List String} :
    other.IsBroken tree root diff names ↔ config.IsBroken tree root diff names := by
  constructor
  · rintro ⟨rule, hrule, hlevel, hbroken⟩
    exact ⟨rule, (h rule hlevel).1 hrule, hlevel, hbroken⟩
  · rintro ⟨rule, hrule, hlevel, hbroken⟩
    exact ⟨rule, (h rule hlevel).2 hrule, hlevel, hbroken⟩

/-! ## The status -/

namespace Command

variable {world : World} {commit : String} {repo : Path} {config : Config} {root : Path}
  {rootText nameText diff : String}

/-- A check that returns has read the root, the names and the change off what git answers, and has
told what the rules mean for them. -/
theorem checkRun_ok
    (hgit : Git.Answers world.git world.tree repo commit rootText nameText diff)
    (h : (checkRun world repo commit config).outcome = .ok root) :
    root = .ofText (strip rootText) ∧
      toldIn (checkRun world repo commit config).trace =
        config.rules.flatMap (·.toldOf ⟨world.tree, some root⟩ diff.toList
          ((Git.namesOf nameText).map fun name => (root.join (.ofText name)).text)) := by
  obtain ⟨found, hfound, h⟩ := Run.bind_ok h
  obtain ⟨listed, hlisted, h⟩ := Run.bind_ok h
  obtain ⟨results, hcheck, h⟩ := Run.bind_ok h
  cases h
  obtain ⟨output, houtput, hstrip⟩ := Git.root_ok hfound
  obtain ⟨names, hanswer, hjoined⟩ := Git.files_ok hfound hlisted
  -- git is asked for the root twice, by the check and for the names, and has one answer to it
  cases hgit.root.symm.trans houtput
  cases hgit.names.symm.trans hanswer
  refine ⟨hstrip, ?_⟩
  have hget : Session.start.cache.get (Git.change world.git world.tree repo) commit =
      ⟨(Git.change world.git world.tree repo commit).trace ++ [.loaded commit diff.length],
        .ok diff⟩ := Run.bind_of_ok hgit.change
  have hquiet : toldIn (Session.start.cache.get (Git.change world.git world.tree repo) commit).trace
      = [] := by
    rw [hget, toldIn_append, Git.toldIn_change]
    rfl
  obtain ⟨text, htext, htold⟩ := toldIn_check hquiet hcheck
  rw [hget] at htext
  cases htext
  rw [checkRun, toldIn_bind_of_ok hfound Git.toldIn_root,
    toldIn_bind_of_ok hlisted (Git.toldIn_files commit), Run.bind_of_ok hcheck, toldIn_append,
    htold, hjoined]
  exact List.append_nil _

theorem runCheck_status
    (hgit : Git.Answers world.git world.tree repo commit rootText nameText diff)
    (h : (checkRun world repo commit config).outcome = .ok root) (format : Format)
    (verbose : Bool) :
    ((runCheck world commit repo format config verbose).status = 1 ↔
      config.IsBroken world.tree (.ofText (strip rootText)) diff.toList (Git.namesOf nameText)) ∧
    ((runCheck world commit repo format config verbose).status = 0 ↔
      ¬ config.IsBroken world.tree (.ofText (strip rootText)) diff.toList
        (Git.namesOf nameText)) := by
  obtain ⟨rfl, htold⟩ := checkRun_ok hgit h
  have herrors : (Ledger.empty.noteAll (checkRun world repo commit config).trace).summary.hasErrors
      = true ↔ config.IsBroken world.tree (.ofText (strip rootText)) diff.toList
        (Git.namesOf nameText) := by
    rw [hasErrors_told htold]
    simp only [exists_flagged_iff (Path.clean_ofText _), Config.IsBroken]
  have hstatus : (runCheck world commit repo format config verbose).status =
      if (Ledger.empty.noteAll (checkRun world repo commit config).trace).summary.hasErrors then 1
      else 0 := by
    simp only [runCheck, h]
  rw [hstatus, ← herrors]
  cases (Ledger.empty.noteAll (checkRun world repo commit config).trace).summary.hasErrors with
  | false => simp
  | true => simp

theorem execute_check {name : String} {format : Format} {explicit : Option Path}
    (hformat : Format.ofName? name = some format)
    (hconfig : loadConfig world.tree repo explicit = .ok config) (verbose : Bool) :
    execute world (.check commit repo name explicit verbose) =
      runCheck world commit repo format config verbose := by
  simp only [execute, withConfig, readFormat, hformat, loadOrRefuse, hconfig]

/-- If the configuration loads, git answers, and nothing fails on the way, then a check ends with
status 1 if some name in the answer breaks a rule of level error, and else with status 0. The other
rules have no say: with any configuration that has the same rules of level error, as long as nothing
fails, the status is the same. -/
theorem check_status_iff {name : String} {format : Format} {explicit : Option Path}
    (verbose : Bool) (hformat : Format.ofName? name = some format)
    (hconfig : loadConfig world.tree repo explicit = .ok config)
    (hgit : Git.Answers world.git world.tree repo commit rootText nameText diff)
    (hrun : (checkRun world repo commit config).outcome = .ok root) :
    ((execute world (.check commit repo name explicit verbose)).status = 1 ↔
      ∃ rule ∈ config.rules, rule.level = .error ∧ ∃ file ∈ Git.namesOf nameText,
        rule.IsBroken world.tree (.ofText (strip rootText)) diff.toList file) ∧
    ((execute world (.check commit repo name explicit verbose)).status ≠ 1 →
      (execute world (.check commit repo name explicit verbose)).status = 0) ∧
    ∀ other : Config, (∀ rule, rule.level = .error → (rule ∈ other.rules ↔ rule ∈ config.rules)) →
      (∃ place, (checkRun world repo commit other).outcome = .ok place) →
      (runCheck world commit repo format other verbose).status =
        (execute world (.check commit repo name explicit verbose)).status := by
  rw [execute_check hformat hconfig]
  obtain ⟨hone, hzero⟩ := runCheck_status hgit hrun format verbose
  refine ⟨hone, fun hne => hzero.2 (mt hone.2 hne), ?_⟩
  rintro other hsame ⟨place, hother⟩
  obtain ⟨hone', hzero'⟩ := runCheck_status hgit hother format verbose
  by_cases hb : config.IsBroken world.tree (.ofText (strip rootText)) diff.toList
      (Git.namesOf nameText)
  · rw [hone.2 hb, hone'.2 ((Config.isBroken_congr hsame).2 hb)]
  · rw [hzero.2 hb, hzero'.2 (mt (Config.isBroken_congr hsame).1 hb)]

/-- A repository with one script, which a commit adds a line to, and a rule against such lines. -/
def scriptWorld : World :=
  let config :=
    "[[rules]]\nfiles = \"*.ts\"\npattern = \"no logs\"\nlevel = \"error\"\nfind = \"log\"\n"
  { tree := ⟨[(["r"], .directory), (["r", "a.ts"], .file (Utf8.encode "log\n")),
      (["r", "scanva.toml"], .file (Utf8.encode config))], []⟩
    git := some fun arguments =>
      let answer := match arguments with
        | "rev-parse" :: _ => "/r\n"
        | "diff-tree" :: _ => "a.ts\x00"
        | _ => "+log\n"
      ⟨Utf8.encode answer, [], 0⟩
    now := ⟨2000, 1, 1, 0, 0, 0⟩ }

def logRule : Rule := ⟨"no logs", .error, .one "*.ts", some (.literal "log"), 10⟩

theorem check_status_script :
    (execute scriptWorld (.check "HEAD" ⟨.root, ["r"]⟩ "human" none false)).status = 1 ∧
    ∃ rule ∈ [logRule], rule.level = .error ∧ ∃ file ∈ Git.namesOf "a.ts\x00",
      rule.IsBroken scriptWorld.tree (.ofText (strip "/r\n")) "+log\n".toList file := by
  have hformat : Format.ofName? "human" = some .human := by decide +kernel
  have hconfig : loadConfig scriptWorld.tree ⟨.root, ["r"]⟩ none =
      .ok ⟨[logRule], some "/r/scanva.toml"⟩ := ok_of_toOption (by decide +kernel)
  have hgit : Git.Answers scriptWorld.git scriptWorld.tree ⟨.root, ["r"]⟩ "HEAD" "/r\n" "a.ts\x00"
      "+log\n" :=
    ⟨ok_of_toOption (by decide +kernel), ok_of_toOption (by decide +kernel),
      ok_of_toOption (by decide +kernel)⟩
  have hrun : (checkRun scriptWorld ⟨.root, ["r"]⟩ "HEAD"
      ⟨[logRule], some "/r/scanva.toml"⟩).outcome = .ok ⟨.root, ["r"]⟩ :=
    ok_of_toOption (by decide +kernel)
  have hstatus : (execute scriptWorld (.check "HEAD" ⟨.root, ["r"]⟩ "human" none false)).status =
      1 := by decide +kernel
  exact ⟨hstatus, (check_status_iff false hformat hconfig hgit hrun).1.1 hstatus⟩

end Command

end CommitRules
