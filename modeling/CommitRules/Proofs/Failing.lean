import CommitRules.Proofs.Messages
import CommitRules.Proofs.Presentation
import CommitRules.Proofs.Questions

/-!
# CommitRules.Proofs.Failing

Checks that fail leave no half of a report, and say why they have failed.

* `runCheck_endsCleanly`: a check asks git nothing behind a question that fails, ends as that
  question has failed, and writes a report only if all goes well.
* `failing_check_is_clean`: so does every command line that asks for a check, and one that is
  refused on the way to it asks git nothing at all.
* `missing_git_unnoticed`: that git is missing is not noticed from a path that leads to a file.
-/

namespace CommitRules

open CommitRules.Files
open CommitRules.Text

namespace Git

/-- What a refusal of git is put down to. -/
def refusal (question : List String) (complaint : String) : String :=
  if (strip complaint).isEmpty then "git " ++ " ".intercalate question ++ " failed"
  else strip complaint

theorem replyText_refused {question : List String} {reply : Reply} {complaint : String}
    (hcode : reply.code ≠ 0) (houtput : Returns (streamText reply.output))
    (hcomplaint : streamText reply.complaint = .ok complaint) :
    replyText question reply = .error (.git (refusal question complaint)) := by
  obtain ⟨output, houtput⟩ := houtput
  simp only [replyText, houtput, hcomplaint, bind, Except.bind, if_neg hcode, refusal]
  split <;> rfl

theorem root_missing {tree : Tree} {repo : Path} (hrepo : repo.hasNul = false) :
    root none tree repo =
      ⟨[], .error ((startFailure? tree repo).getD (notFound (quoted "git")))⟩ := by
  have hcall : call none tree repo ["rev-parse", "--show-toplevel"] =
      .ofExcept (.error ((startFailure? tree repo).getD (notFound (quoted "git")))) := by
    have hnul : ¬ (repo.hasNul || ["rev-parse", "--show-toplevel"].any
        (·.toList.contains (Char.ofNat 0))) = true := by
      rw [hrepo]
      decide +kernel
    unfold call
    rw [if_neg hnul]
    cases startFailure? tree repo <;> rfl
  rw [root, hcall]
  exact Run.bind_of_error rfl

end Git

namespace Command

/-! ## Endings -/

namespace Ending

/-- The user is told that a value cannot be used. -/
def Refuses (ending : Ending) (hint : Option String) (message : String) : Prop :=
  ending.status = 2 ∧ ending.problem = some (badParameter hint message)

/-- The failure is reported on one line, behind the log if there is one. -/
def Reports (ending : Ending) (verbose : Bool) (message : String) : Prop :=
  ending.status = 1 ∧ ending.problem = none ∧ '\n' ∉ message.toList ∧
    ending.complaint =
      (if verbose then logText ending.trace else "") ++ ("Error: " ++ message ++ "\n")

end Ending

/-- How a check ends whose format and configuration can be used. -/
structure RunEndsCleanly (world : World) (commit : String) (repo : Path) (config : Config)
    (verbose : Bool) (ending : Ending) : Prop where
  inOrder : questionsIn ending.trace <+: Git.questions world.git commit
  whole : Returns (checkRun world repo commit config).outcome →
    questionsIn ending.trace = Git.questions world.git commit
  stops : ∀ earlier question later failure,
    questionsIn ending.trace = earlier ++ question :: later →
      Git.said? world.git question = some (.error failure) →
        later = [] ∧ (checkRun world repo commit config).outcome = .error failure
  refused : ∀ answer question complaint, world.git = some answer →
    question ∈ questionsIn ending.trace → (answer question).code ≠ 0 →
      Returns (Git.streamText (answer question).output) →
        Git.streamText (answer question).complaint = .ok complaint →
          ending.Refuses none (Git.refusal question complaint)
  missing : world.git = none → ending.trace = [] ∧
    match world.tree.look repo with
    | .ok .directory =>
      ending.Refuses none
        ("git executable not found: " ++ (Failure.system .noEntry (quoted "git")).message)
    | .error .noEntry =>
      ending.Refuses none
        ("git executable not found: " ++ (Failure.system .noEntry (Git.shownPath repo)).message)
    | .ok (.file _) =>
      ending.Reports verbose (Failure.system .notDirectory (Git.shownPath repo)).message
    | .error error => ending.Reports verbose (Failure.system error (Git.shownPath repo)).message
  git : ∀ message, (checkRun world repo commit config).outcome = .error (.git message) →
    ending.Refuses none message
  system : ∀ failure, (checkRun world repo commit config).outcome = .error failure →
    isSystemFailure failure = true → ending.Reports verbose failure.message
  other : ∀ failure, (checkRun world repo commit config).outcome = .error failure →
    isSystemFailure failure = false → (∀ message, failure ≠ .git message) →
      ending.status = 1 ∧ ending.problem = some (.failure failure)
  silent : ending.output = "" ↔ ¬ Returns (checkRun world repo commit config).outcome

/-- How a check ends. -/
structure EndsCleanly (world : World) (commit : String) (repo : Path) (name : String)
    (explicit : Option Path) (verbose : Bool) (ending : Ending) : Prop where
  badFormat : Format.ofName? name = none → ending.trace = [] ∧ ending.output = "" ∧
    ending.Refuses (some "--format") "format must be one of: human, json"
  badConfig : ∀ failure, Format.ofName? name ≠ none →
    loadConfig world.tree repo explicit = .error failure → ending.trace = [] ∧ ending.output = "" ∧
      if isBadValue failure then ending.Refuses (some "config") failure.message
      else ending.status = 1 ∧ ending.problem = some (.failure failure)
  run : ∀ config, Format.ofName? name ≠ none → loadConfig world.tree repo explicit = .ok config →
    RunEndsCleanly world commit repo config verbose ending

/-! ## Failures of a run -/

section Runs

variable {world : World} {commit : String} {repo : Path} {config : Config} {failure : Failure}

theorem checkRun_fails (h : (checkRun world repo commit config).outcome = .error failure) :
    failure.IsPlain := by
  rcases Run.outcome_bind_error h with h | ⟨root, -, h⟩
  · exact Git.root_fails h
  rcases Run.outcome_bind_error h with h | ⟨files, -, h⟩
  · exact Git.files_fails h
  rcases Run.outcome_bind_error h with h | ⟨results, -, h⟩
  · exact check_fails (fun other hother => Git.call_fails hother) h
  · cases h

theorem runCheck_refuses {message : String}
    (h : (checkRun world repo commit config).outcome = .error (.git message)) (format : Format)
    (verbose : Bool) :
    (runCheck world commit repo format config verbose).Refuses none message := by
  rw [runCheck_eq]
  simp only [Ending.Refuses, statusOf, problemOf, h, and_self]

theorem runCheck_reports (h : (checkRun world repo commit config).outcome = .error failure)
    (hsystem : isSystemFailure failure = true) (format : Format) (verbose : Bool) :
    (runCheck world commit repo format config verbose).Reports verbose failure.message := by
  have hfails := checkRun_fails h
  rw [runCheck_eq]
  cases failure with
  | noFile | system =>
    have hplain : IsPlainLine (Failure.message _) := hfails
    have hline := plain_of_isPlainLine
      (isPlainLine_append (by decide : IsPlainLine "Error: ") hplain)
    refine ⟨?_, ?_, fun hfeed => (hplain '\n' hfeed).1 rfl, ?_⟩
    · simp only [statusOf, h]
    · simp only [problemOf, h, hsystem, if_true]
    · simp only [logOf, errorLine, h, hsystem, if_true, Ending.line, hline]
  | config | noConfig | git | badValue | tooLarge | undecodable | badPattern => cases hsystem

theorem runCheck_breaks (h : (checkRun world repo commit config).outcome = .error failure)
    (hsystem : isSystemFailure failure = false) (hgit : ∀ message, failure ≠ .git message)
    (format : Format) (verbose : Bool) :
    (runCheck world commit repo format config verbose).status = 1 ∧
      (runCheck world commit repo format config verbose).problem = some (.failure failure) := by
  rw [runCheck_eq]
  cases failure with
  | git message => exact (hgit message rfl).elim
  | noFile | system => cases hsystem
  | config | noConfig | badValue | tooLarge | undecodable | badPattern =>
    simp only [statusOf, problemOf, h, hsystem, Bool.false_eq_true, if_false, and_self]

theorem checkReport_ne_empty (format : Format) (ledger : Ledger) (root : Path) :
    checkReport world format commit config ledger root ≠ "" := by
  have hline : ∀ front text : String, front ++ Ending.line text ≠ "" := by
    intro front text h
    have h := congrArg String.length h
    simp [Ending.line] at h
  cases format with
  | json => exact fun h => hline "" _ (by simpa [checkReport] using h)
  | human => exact hline _ _

theorem runCheck_output_iff (format : Format) (verbose : Bool) :
    (runCheck world commit repo format config verbose).output = "" ↔
      ¬ Returns (checkRun world repo commit config).outcome := by
  rw [runCheck_eq]
  cases h : (checkRun world repo commit config).outcome with
  | ok root =>
    simp only [reportOf, h]
    exact iff_of_false (checkReport_ne_empty format _ root) (not_not_intro (returns_ok root))
  | error failure =>
    have hreport : reportOf (checkRun world repo commit config) world format commit config =
        "" := by simp only [reportOf, h]
    exact iff_of_true hreport not_returns_error

/-! ## Missing git -/

variable (commit config) in
theorem checkRun_missing (hgit : world.git = none) (hrepo : repo.hasNul = false) :
    checkRun world repo commit config =
      ⟨[], .error ((Git.startFailure? world.tree repo).getD (Git.notFound (quoted "git")))⟩ := by
  rw [checkRun, hgit, Git.root_missing hrepo]
  exact Run.bind_of_error rfl

theorem hasNul_of_loadConfig {tree : Tree} {explicit : Option Path}
    (h : loadConfig tree repo explicit = .ok config) : repo.hasNul = false := by
  cases hnul : repo.hasNul with
  | false => rfl
  | true =>
    rw [loadConfig_of_hasNul hnul] at h
    cases h

end Runs

/-! ## Checks -/

variable {world : World} {commit : String} {repo : Path} {config : Config}

/-- A check whose format and configuration can be used asks git nothing behind a question that
fails, ends as that question has failed, reports failures of the file system on one line, and writes
something if and only if it gets to its end. -/
theorem runCheck_endsCleanly {explicit : Option Path}
    (hconfig : loadConfig world.tree repo explicit = .ok config) (format : Format)
    (verbose : Bool) :
    RunEndsCleanly world commit repo config verbose
      (runCheck world commit repo format config verbose) := by
  obtain ⟨inOrder, whole, stops⟩ := asks_checkRun world repo commit config
  have htrace : (runCheck world commit repo format config verbose).trace =
      (checkRun world repo commit config).trace := by rw [runCheck_eq]
  have hgit : ∀ message, (checkRun world repo commit config).outcome = .error (.git message) →
      (runCheck world commit repo format config verbose).Refuses none message :=
    fun message h => runCheck_refuses h format verbose
  have hsystem : ∀ failure, (checkRun world repo commit config).outcome = .error failure →
      isSystemFailure failure = true →
        (runCheck world commit repo format config verbose).Reports verbose failure.message :=
    fun failure h hfailure => runCheck_reports h hfailure format verbose
  refine
    { inOrder := ?inOrder
      whole := ?whole
      stops := ?stops
      refused := ?refused
      missing := ?missing
      git := hgit
      system := hsystem
      other := ?other
      silent := runCheck_output_iff format verbose }
  case inOrder =>
    rw [htrace]
    exact inOrder
  case whole =>
    rw [htrace]
    exact whole
  case stops =>
    rw [htrace]
    exact stops
  case refused =>
    intro answer question complaint hanswer hasked hcode houtput hcomplaint
    rw [htrace] at hasked
    obtain ⟨earlier, later, hasked⟩ := List.append_of_mem hasked
    have hsaid : Git.said? world.git question =
        some (.error (.git (Git.refusal question complaint))) := by
      rw [hanswer]
      exact congrArg some (Git.replyText_refused hcode houtput hcomplaint)
    obtain ⟨-, houtcome⟩ := stops earlier question later _ hasked hsaid
    exact hgit _ houtcome
  case missing =>
    intro hmissing
    have hrun := checkRun_missing commit config hmissing (hasNul_of_loadConfig hconfig)
    have houtcome := congrArg Run.outcome hrun
    refine ⟨htrace.trans (congrArg Run.trace hrun), ?_⟩
    -- what the path leads to decides before it is seen that there is no program
    rw [Git.startFailure?] at houtcome
    cases hlook : world.tree.look repo with
    | ok entry =>
      rw [hlook] at houtcome
      cases entry with
      | directory => exact hgit _ houtcome
      | file bytes => exact hsystem _ houtcome rfl
    | error error =>
      rw [hlook] at houtcome
      cases error with
      | noEntry => exact hgit _ houtcome
      | alreadyExists | notDirectory | isDirectory | nameTooLong => exact hsystem _ houtcome rfl
  case other =>
    intro failure h hfailure hother
    exact runCheck_breaks h hfailure hother format verbose

/-- A check asks git nothing if its command line, its format or its configuration is refused; else
it asks for the root, for the names, for the root again if there are names, and for the change, and
nothing behind a question that fails. It writes a report only if nothing fails; a refusal of git is
the user's mistake, and a failure of the file system is reported on one line. -/
theorem failing_check_is_clean (world : World) (line : List String) :
    (∀ problem, readRequest line = .error problem →
      (runLine world line).trace = [] ∧ (runLine world line).output = "" ∧
        (runLine world line).problem = some problem) ∧
    ∀ commit repo name explicit verbose,
      readRequest line = .ok (.check commit repo name explicit verbose) →
        EndsCleanly world commit repo name explicit verbose (runLine world line) := by
  refine ⟨fun problem h => ?_, fun commit repo name explicit verbose h => ?_⟩
  · simp only [runLine, h, Ending.broken, and_self]
  have hrun : runLine world line = execute world (.check commit repo name explicit verbose) := by
    simp only [runLine, h]
  rw [hrun]
  refine ⟨fun hname => ?_, fun failure hname hload => ?_, fun config hname hload => ?_⟩
  · simp only [execute, withConfig, readFormat, hname]
    exact ⟨rfl, rfl, rfl, rfl⟩
  · obtain ⟨format, hformat⟩ := Option.ne_none_iff_exists'.1 hname
    cases hbad : isBadValue failure with
    | true =>
      simp only [execute_known hformat, loadOrRefuse, hload, hbad, if_true]
      exact ⟨rfl, rfl, rfl, rfl⟩
    | false =>
      simp only [execute_known hformat, loadOrRefuse, hload, hbad, Bool.false_eq_true, if_false]
      exact ⟨rfl, rfl, rfl, rfl⟩
  · obtain ⟨format, hformat⟩ := Option.ne_none_iff_exists'.1 hname
    rw [execute_check hformat hload]
    exact runCheck_endsCleanly hload format verbose

/-- A file, and a configuration without rules. -/
def bareTree : Tree :=
  ⟨[(["note"], .file (Utf8.encode "x")), (["scanva.toml"], .file (Utf8.encode "rules = []\n"))],
    []⟩

/-- A repository where git knows the root but not the commit. -/
def unbornWorld : World :=
  { tree := bareTree
    git := some fun arguments =>
      match arguments with
      | "rev-parse" :: _ => ⟨Utf8.encode "/\n", [], 0⟩
      | _ => ⟨[], Utf8.encode " fatal: bad revision\r\n", 128⟩
    now := ⟨2000, 1, 1, 0, 0, 0⟩ }

theorem failing_check_is_clean_unborn :
    questionsIn (runLine unbornWorld ["check"]).trace =
      [Git.rootQuestion, Git.namesQuestion "HEAD"] ∧
    (runLine unbornWorld ["check"]).Refuses none "fatal: bad revision" ∧
    (runLine unbornWorld ["check"]).output = "" := by
  have hline : readRequest ["check"] = .ok (.check "HEAD" ⟨.relative, []⟩ "human" none false) :=
    ok_of_toOption (by decide +kernel)
  have hload : loadConfig unbornWorld.tree ⟨.relative, []⟩ none =
      .ok ⟨[], some "/scanva.toml"⟩ := ok_of_toOption (by decide +kernel)
  have hasked : questionsIn (runLine unbornWorld ["check"]).trace =
      [Git.rootQuestion, Git.namesQuestion "HEAD"] := by decide +kernel
  have hmessage : Git.refusal (Git.namesQuestion "HEAD") " fatal: bad revision\n" =
      "fatal: bad revision" := by decide +kernel
  have hreturns : ¬ Returns (checkRun unbornWorld ⟨.relative, []⟩ "HEAD"
      ⟨[], some "/scanva.toml"⟩).outcome := by decide +kernel
  have hends := (failing_check_is_clean unbornWorld ["check"]).2 _ _ _ _ _ hline
  have hrun := hends.run _ (by decide +kernel) hload
  have hrefused := hrun.refused _ (Git.namesQuestion "HEAD") " fatal: bad revision\n" rfl
    (by rw [hasked]; decide) (by decide +kernel) (by decide +kernel)
    (ok_of_toOption (by decide +kernel))
  rw [hmessage] at hrefused
  exact ⟨hasked, hrefused, hrun.silent.2 hreturns⟩

/-- The same place without git. -/
def bareWorld : World := ⟨bareTree, none, ⟨2000, 1, 1, 0, 0, 0⟩⟩

def noteLine : List String := ["check", "--repo", "note", "--config", "/scanva.toml"]

/-- No program can be started in a file, and this is said of git whether or not there is git. -/
theorem missing_git_unnoticed :
    bareWorld.git = none ∧
    readRequest noteLine =
      .ok (.check "HEAD" ⟨.relative, ["note"]⟩ "human" (some ⟨.root, ["scanva.toml"]⟩) false) ∧
    loadConfig bareWorld.tree ⟨.relative, ["note"]⟩ (some ⟨.root, ["scanva.toml"]⟩) =
      .ok ⟨[], some "/scanva.toml"⟩ ∧
    (runLine bareWorld noteLine).trace = [] ∧
    (runLine bareWorld noteLine).complaint =
      "Error: [Errno 20] Not a directory: PosixPath('note')\n" ∧
    ¬ ∃ hint message, (runLine bareWorld noteLine).Refuses hint message := by
  have hstatus : (runLine bareWorld noteLine).status = 1 := by decide +kernel
  refine ⟨rfl, ok_of_toOption (by decide +kernel), ok_of_toOption (by decide +kernel),
    by decide +kernel, by decide +kernel, ?_⟩
  rintro ⟨hint, message, hrefused, -⟩
  rw [hstatus] at hrefused
  cases hrefused

end Command

end CommitRules
