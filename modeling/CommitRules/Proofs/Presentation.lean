import CommitRules.Proofs.Verdict

/-!
# CommitRules.Proofs.Presentation

What the format of a report and the log have to do with how a check ends: nothing.

* `runCheck_eq`: every part of an ending, from the run of the check. The format shows in the report
  only, and whether there is a log in the complaint only.
* `presentation_keeps_ending`: two checks that differ in these options, and in when they are
  carried out, do the same and end in the same way.
-/

namespace CommitRules.Command

open CommitRules.Files
open CommitRules.Text

/-! ## The parts of an ending -/

section Parts

variable (run : Run Path)

/-- The log, if it is wanted. -/
def logOf (verbose : Bool) : String := if verbose then logText run.trace else ""

/-- The line about a failure of the file system. -/
def errorLine : String :=
  match run.outcome with
  | .ok _ => ""
  | .error failure =>
    if isSystemFailure failure then Ending.line ("Error: " ++ failure.message) else ""

def statusOf : Nat :=
  match run.outcome with
  | .ok _ => if (Ledger.empty.noteAll run.trace).summary.hasErrors then 1 else 0
  | .error (.git _) => 2
  | .error _ => 1

/-- What is kept for whoever started the command. -/
def problemOf : Option Problem :=
  match run.outcome with
  | .ok _ => none
  | .error (.git message) => some (badParameter none message)
  | .error failure => if isSystemFailure failure then none else some (.failure failure)

/-- The report, if the run gets there. -/
def reportOf (world : World) (format : Format) (commit : String) (config : Config) : String :=
  match run.outcome with
  | .ok root => checkReport world format commit config (Ledger.empty.noteAll run.trace) root
  | .error _ => ""

end Parts

variable {world : World} {commit : String} {repo : Path}

theorem runCheck_eq (world : World) (commit : String) (repo : Path) (format : Format)
    (config : Config) (verbose : Bool) :
    runCheck world commit repo format config verbose =
      { output := reportOf (checkRun world repo commit config) world format commit config
        complaint := logOf (checkRun world repo commit config) verbose ++
          errorLine (checkRun world repo commit config)
        status := statusOf (checkRun world repo commit config)
        problem := problemOf (checkRun world repo commit config)
        trace := (checkRun world repo commit config).trace
        tree := world.tree } := by
  cases h : (checkRun world repo commit config).outcome with
  | ok root => simp [runCheck, reportOf, logOf, errorLine, statusOf, problemOf, h, Ending.success]
  | error failure =>
    cases failure with
    | git | noFile | system | config | noConfig | badValue | tooLarge | undecodable | badPattern =>
      simp [runCheck, reportOf, logOf, errorLine, statusOf, problemOf, h, Ending.success,
        isSystemFailure]

theorem execute_known {name : String} {format : Format} (h : Format.ofName? name = some format)
    (explicit : Option Path) (verbose : Bool) :
    execute world (.check commit repo name explicit verbose) =
      match loadOrRefuse world.tree repo explicit with
      | .error problem => .broken world problem
      | .ok config => runCheck world commit repo format config verbose := by
  cases hload : loadOrRefuse world.tree repo explicit with
  | error problem => simp only [execute, withConfig, readFormat, h, hload]
  | ok config => simp only [execute, withConfig, readFormat, h, hload]

/-! ## Presentation -/

/-- Two checks of a commit in a repository, with the same configuration, tree and git, do the same
whatever their formats are, whether they are logged, and when they are carried out: git is asked the
same, everything else that happens is the same, and so are the status, the problem that is left, and
the files. What they write in the same format at the same moment is the same. What they complain of
is the same behind the log, which lists what has happened or is left out. -/
theorem presentation_keeps_ending {name other : String} {format format' : Format}
    (hname : Format.ofName? name = some format) (hother : Format.ofName? other = some format')
    (world : World) (now : Moment) (commit : String) (repo : Path) (explicit : Option Path)
    (verbose verbose' : Bool) :
    let first := execute world (.check commit repo name explicit verbose)
    let second := execute { world with now } (.check commit repo other explicit verbose')
    first.trace = second.trace ∧ first.status = second.status ∧ first.problem = second.problem ∧
      first.tree = second.tree ∧
      (format = format' → world.now = now → first.output = second.output) ∧
      ∃ rest, first.complaint = (if verbose then logText first.trace else "") ++ rest ∧
        second.complaint = (if verbose' then logText first.trace else "") ++ rest := by
  intro first second
  have hfirst : first = _ := execute_known hname explicit verbose
  have hsecond : second = _ := execute_known hother explicit verbose'
  cases hload : loadOrRefuse world.tree repo explicit with
  | error problem =>
    -- nothing has happened, and the log of nothing is empty
    have hlog : ∀ v : Bool, (if v then logText [] else "") = "" := by decide
    simp only [hload] at hfirst hsecond
    rw [hfirst, hsecond]
    refine ⟨rfl, rfl, rfl, rfl, fun _ _ => rfl, "", ?_, ?_⟩
    · exact (congrArg (· ++ "") (hlog verbose)).symm
    · exact (congrArg (· ++ "") (hlog verbose')).symm
  | ok config =>
    -- the run of a check knows no format and no clock
    have hrun : checkRun { world with now } repo commit config =
        checkRun world repo commit config := rfl
    simp only [hload, runCheck_eq, hrun] at hfirst hsecond
    rw [hfirst, hsecond]
    refine ⟨rfl, rfl, rfl, rfl, ?_, errorLine (checkRun world repo commit config), rfl, rfl⟩
    rintro rfl rfl
    rfl

theorem presentation_keeps_ending_script :
    Format.ofName? "JSON" = some .json ∧ Format.ofName? "human" = some .human ∧
    (execute scriptWorld (.check "HEAD" ⟨.root, ["r"]⟩ "human" none false)).status = 1 ∧
    (execute { scriptWorld with now := ⟨2001, 1, 1, 0, 0, 0⟩ }
      (.check "HEAD" ⟨.root, ["r"]⟩ "JSON" none true)).status = 1 := by
  have hhuman : Format.ofName? "human" = some .human := by decide +kernel
  have hjson : Format.ofName? "JSON" = some .json := by decide +kernel
  have hstatus : (execute scriptWorld (.check "HEAD" ⟨.root, ["r"]⟩ "human" none false)).status =
      1 := by decide +kernel
  have hsame := presentation_keeps_ending hhuman hjson scriptWorld ⟨2001, 1, 1, 0, 0, 0⟩ "HEAD"
    ⟨.root, ["r"]⟩ none false true
  exact ⟨hjson, hhuman, hstatus, hsame.2.1.symm.trans hstatus⟩

end CommitRules.Command
