import CommitRules.Proofs.Failing
import CommitRules.Proofs.Names

/-!
# CommitRules.Proofs.GitAnswers

What comes of the bytes that git answers. Whatever git does, an answer in UTF-8 ends in a result or
in a failure that is put down to git. Any other answer breaks off with a fault of reading, before it
is seen whether git has refused, and nobody deals with this fault.

* `SettlesIf.bind`, `Strict.bind`: how computations that break off over reading are put together.
* `settlesIf_files`: asking for the names of files settles exactly if the answers can be read.
* `strict_checkRun`: a check breaks off over an answer that cannot be read, and over nothing else.
* `answers_settle_iff`: both, for everything that is asked of git.
* `latin_answer_unsettled`: a change with a letter in Latin-1.
-/

namespace CommitRules

open CommitRules.Files
open CommitRules.Text

/-! ## Outcomes -/

section Outcomes

variable {α β : Type} {outcome : Except Failure α} {next : α → Except Failure β} {P Q : Prop}

/-- There is a result, or a failure that is put down to git. -/
def Settles (outcome : Except Failure α) : Prop :=
  Returns outcome ∨ ∃ message, outcome = .error (.git message)

/-- There is a failure over bytes that are not in UTF-8. -/
def Garbled (outcome : Except Failure α) : Prop :=
  FailsBy (fun failure => ∃ fault, failure = .undecodable fault) outcome

/-- A computation settles under a condition and else breaks off over reading. -/
structure SettlesIf (outcome : Except Failure α) (readable : Prop) : Prop where
  settles : Settles outcome ↔ readable
  garbled : Garbled outcome ↔ ¬ readable

theorem garbled_error {failure : Failure} :
    Garbled (.error failure : Except Failure α) ↔ ∃ fault, failure = .undecodable fault :=
  failsBy_error

theorem not_garbled_ok (value : α) : ¬ Garbled (.ok value : Except Failure α) := not_failsBy_ok value

theorem Settles.not_garbled (h : Settles outcome) : ¬ Garbled outcome := by
  rcases h with ⟨value, rfl⟩ | ⟨message, rfl⟩
  · exact not_garbled_ok value
  · exact fun h => nomatch garbled_error.1 h

theorem settlesIf_of_settles (h : Settles outcome) (hP : P) : SettlesIf outcome P :=
  ⟨iff_of_true h hP, iff_of_false h.not_garbled (not_not_intro hP)⟩

theorem settlesIf_of_garbled (h : Garbled outcome) (hP : ¬ P) : SettlesIf outcome P :=
  ⟨iff_of_false (fun hs => hs.not_garbled h) hP, iff_of_true h hP⟩

theorem SettlesIf.congr (h : SettlesIf outcome P) (hPQ : P ↔ Q) : SettlesIf outcome Q :=
  ⟨h.settles.trans hPQ, h.garbled.trans (not_congr hPQ)⟩

theorem not_garbled_of_rules (h : ∀ failure, outcome = .error failure → failure.OfRules) :
    ¬ Garbled outcome := by
  rintro ⟨failure, houtcome, fault, rfl⟩
  exact h _ houtcome

/-- What comes first has to be readable, and what comes next only if there is a result to go on
with. -/
theorem SettlesIf.bind (h : SettlesIf outcome P)
    (hnext : ∀ value, outcome = .ok value → SettlesIf (next value) Q) :
    SettlesIf (outcome >>= next) (P ∧ (Returns outcome → Q)) := by
  cases outcome with
  | error failure =>
    have hQ : Returns (.error failure : Except Failure α) → Q := fun h => (not_returns_error h).elim
    have hbind : ((.error failure : Except Failure α) >>= next) = .error failure := rfl
    by_cases hP : P
    · rcases h.settles.2 hP with hreturns | ⟨message, hgit⟩
      · exact (not_returns_error hreturns).elim
      · cases hgit
        exact settlesIf_of_settles (.inr ⟨message, hbind⟩) ⟨hP, hQ⟩
    · have hfault := garbled_error.1 (h.garbled.2 hP)
      exact settlesIf_of_garbled (hbind ▸ garbled_error.2 hfault) fun h => hP h.1
  | ok value =>
    have hP : P := h.settles.1 (.inl (returns_ok value))
    refine (hnext value rfl).congr ?_
    rw [and_iff_right hP]
    exact ⟨fun hQ _ => hQ, fun hQ => hQ (returns_ok value)⟩

theorem SettlesIf.bind_settles (h : SettlesIf outcome P) (hnext : ∀ value, Settles (next value)) :
    SettlesIf (outcome >>= next) P :=
  (h.bind fun value _ => settlesIf_of_settles (hnext value) trivial).congr
    (and_iff_left fun _ => trivial)

end Outcomes

namespace Git

/-- Whether git, if there is git, answers a question in UTF-8 on both of its streams. -/
def Legible (tool : Tool) (question : List String) : Prop :=
  ∀ answer, tool = some answer →
    Utf8.IsText (answer question).output ∧ Utf8.IsText (answer question).complaint

theorem legible_none {question : List String} : Legible none question := fun _ h => nomatch h

theorem legible_some {answer : List String → Reply} {question : List String} :
    Legible (some answer) question ↔
      Utf8.IsText (answer question).output ∧ Utf8.IsText (answer question).complaint := by
  simp only [Legible, Option.some.injEq, forall_eq']

/-! ## Answers -/

section Answers

variable {tool : Tool} {tree : Tree} {repo : Path} {commit : String} {question : List String}

theorem streamText_cases (bytes : List UInt8) :
    (Utf8.IsText bytes ∧ Returns (streamText bytes)) ∨
      ¬ Utf8.IsText bytes ∧ ∃ fault, streamText bytes = .error (.undecodable fault) := by
  rw [Utf8.isText_iff, streamText]
  cases Utf8.decodeChars bytes with
  | ok chars => exact .inl ⟨returns_ok chars, returns_ok _⟩
  | error fault => exact .inr ⟨not_returns_error, fault, rfl⟩

/-- Both streams are read before it is seen whether git has refused. -/
theorem settlesIf_replyText (question : List String) (reply : Reply) :
    SettlesIf (replyText question reply)
      (Utf8.IsText reply.output ∧ Utf8.IsText reply.complaint) := by
  rcases streamText_cases reply.output with ⟨htext, output, houtput⟩ | ⟨htext, fault, houtput⟩
  · rcases streamText_cases reply.complaint with
      ⟨htext', complaint, hcomplaint⟩ | ⟨htext', fault, hcomplaint⟩
    · refine settlesIf_of_settles ?_ ⟨htext, htext'⟩
      by_cases hcode : reply.code = 0
      · simp only [replyText, houtput, hcomplaint, bind, Except.bind, if_pos hcode]
        exact .inl (returns_ok output)
      · exact .inr ⟨_, replyText_refused hcode ⟨output, houtput⟩ hcomplaint⟩
    · refine settlesIf_of_garbled ?_ fun h => htext' h.2
      simp only [replyText, houtput, hcomplaint, bind, Except.bind]
      exact garbled_error.2 ⟨fault, rfl⟩
  · refine settlesIf_of_garbled ?_ fun h => htext h.1
    simp only [replyText, houtput, bind, Except.bind]
    exact garbled_error.2 ⟨fault, rfl⟩

theorem settlesIf_call (hstart : Starts tree repo)
    (hquestion : ∀ part ∈ question, Char.ofNat 0 ∉ part.toList) :
    SettlesIf (call tool tree repo question).outcome (Legible tool question) := by
  rw [call_of_starts hstart hquestion]
  cases tool with
  | none => exact settlesIf_of_settles (.inr ⟨_, rfl⟩) legible_none
  | some answer => exact (settlesIf_replyText question (answer question)).congr legible_some.symm

theorem settlesIf_root (hstart : Starts tree repo) :
    SettlesIf (root tool tree repo).outcome (Legible tool rootQuestion) := by
  have hcall : SettlesIf (call tool tree repo rootQuestion).outcome (Legible tool rootQuestion) :=
    settlesIf_call hstart (by decide)
  rw [root, Run.outcome_bind]
  refine hcall.bind_settles fun output => ?_
  dsimp only
  split
  · exact .inr ⟨_, rfl⟩
  · exact .inl (returns_ok _)

theorem settlesIf_files (hstart : Starts tree repo) (hcommit : Char.ofNat 0 ∉ commit.toList) :
    SettlesIf (files tool tree repo commit).outcome
      (Legible tool (namesQuestion commit) ∧
        (lists tool commit = true → Legible tool rootQuestion)) := by
  have hquestion : ∀ part ∈ namesQuestion commit, Char.ofNat 0 ∉ part.toList := by
    simpa [namesQuestion] using hcommit
  have hcall : SettlesIf (call tool tree repo (namesQuestion commit)).outcome
      (Legible tool (namesQuestion commit)) := settlesIf_call hstart hquestion
  have hnames : ∀ output, (call tool tree repo (namesQuestion commit)).outcome = .ok output →
      lists tool commit = !(namesOf output).isEmpty := fun output houtput => by
    rw [lists, said_of_call houtput]
  have hlists : lists tool commit = true →
      Returns (call tool tree repo (namesQuestion commit)).outcome := by
    rw [lists, call_of_starts hstart hquestion]
    cases tool with
    | none => exact fun h => (Bool.false_ne_true h).elim
    | some answer =>
      dsimp only [said?, Option.map_some]
      split
      · next output h => exact fun _ => ⟨output, Option.some.inj h⟩
      · exact fun h => (Bool.false_ne_true h).elim
  rw [files, Run.outcome_bind]
  refine (hcall.bind (Q := lists tool commit = true → Legible tool rootQuestion) ?_).congr ?_
  · intro output houtput
    rw [hnames output houtput]
    cases namesOf output with
    | nil =>
      exact settlesIf_of_settles (.inl (returns_ok [])) fun h => (Bool.false_ne_true h).elim
    | cons name names =>
      dsimp only
      rw [Run.outcome_bind]
      refine ((settlesIf_root hstart).bind_settles fun found => .inl (returns_ok _)).congr ?_
      exact ⟨fun h _ => h, fun h => h rfl⟩
  · exact and_congr_right fun _ => ⟨fun h hl => h (hlists hl) hl, fun h _ => h⟩

theorem settlesIf_change (hstart : Starts tree repo) (hcommit : Char.ofNat 0 ∉ commit.toList) :
    SettlesIf (change tool tree repo commit).outcome (Legible tool (changeQuestion commit)) :=
  settlesIf_call hstart (by simpa using hcommit)

end Answers

/-! ## Runs -/

/-- A run breaks off over reading exactly if it has asked a question whose answer is not in
UTF-8. -/
def Strict {α : Type} (tool : Tool) (run : Run α) : Prop :=
  Garbled run.outcome ↔ ∃ question ∈ questionsIn run.trace, ¬ Legible tool question

section Runs

variable {α β : Type} {tool : Tool} {tree : Tree} {repo : Path} {commit : String} {run : Run α}

theorem strict_quiet (h : questionsIn run.trace = []) (hrun : ¬ Garbled run.outcome) :
    Strict tool run := by
  refine iff_of_false hrun ?_
  rw [h]
  rintro ⟨question, hquestion, -⟩
  cases hquestion

theorem Strict.bind {next : α → Run β} (h : Strict tool run)
    (hnext : ∀ value, run.outcome = .ok value → Strict tool (next value)) :
    Strict tool (run >>= next) := by
  cases hrun : run.outcome with
  | error failure =>
    rw [Run.bind_of_error hrun]
    refine Iff.trans ?_ h
    rw [hrun]
    exact garbled_error.trans garbled_error.symm
  | ok value =>
    -- no question of the first run has had an answer that cannot be read, as it has returned
    have hfirst : ¬ ∃ question ∈ questionsIn run.trace, ¬ Legible tool question := by
      refine fun hasked => not_garbled_ok value ?_
      rw [← hrun]
      exact h.2 hasked
    rw [Run.bind_of_ok hrun]
    refine (hnext value hrun).trans ?_
    simp only [questionsIn_append, List.mem_append, or_and_right, exists_or, hfirst, false_or]

theorem startFailure?_readable {failure : Failure} (h : startFailure? tree repo = some failure) :
    ∀ fault, failure ≠ .undecodable fault := by
  unfold startFailure? at h
  split at h <;> cases h <;> nofun

theorem strict_call (question : List String) : Strict tool (call tool tree repo question) := by
  have hquiet : ∀ failure : Failure, (∀ fault, failure ≠ .undecodable fault) →
      Strict tool (.ofExcept (.error failure) : Run String) := fun failure hfailure =>
    strict_quiet rfl fun h => (garbled_error.1 h).elim hfailure
  unfold call
  split
  · exact hquiet _ nofun
  · split
    · next failure hstart => exact hquiet failure (startFailure?_readable hstart)
    · exact hquiet _ nofun
    · next answer _ =>
      have hanswer := (settlesIf_replyText question (answer question)).garbled
      rw [← legible_some] at hanswer
      refine hanswer.trans ?_
      change _ ↔ ∃ other ∈ [question], ¬ Legible (some answer) other
      simp only [List.mem_singleton, exists_eq_left]

theorem strict_root : Strict tool (root tool tree repo) := by
  refine (strict_call rootQuestion).bind fun output _ => ?_
  dsimp only
  split
  · exact strict_quiet rfl fun h => nomatch garbled_error.1 h
  · exact strict_quiet rfl (not_garbled_ok _)

theorem strict_files : Strict tool (files tool tree repo commit) := by
  refine (strict_call (namesQuestion commit)).bind fun output _ => ?_
  split
  · exact strict_quiet rfl (not_garbled_ok _)
  · exact strict_root.bind fun found _ => strict_quiet rfl (not_garbled_ok _)

theorem strict_check (place : Place) (rules : List Rule) (listed : List String) :
    Strict tool (Session.start.check (change tool tree repo) commit place rules listed) := by
  have hget : Strict tool (Session.start.cache.get (change tool tree repo) commit) :=
    (strict_call _).bind fun text _ => strict_quiet rfl (not_garbled_ok _)
  exact hget.bind fun diff _ =>
    strict_quiet questionsIn_applyRules (not_garbled_of_rules fun _ => applyRules_fails)

end Runs

end Git

namespace Command

variable {world : World} {repo : Path} {commit : String} {config : Config}

theorem strict_checkRun : Git.Strict world.git (checkRun world repo commit config) := by
  refine Git.strict_root.bind fun root _ => Git.strict_files.bind fun listed _ => ?_
  refine (Git.strict_check ⟨world.tree, some root⟩ config.rules listed).bind fun _ _ => ?_
  exact Git.strict_quiet rfl (not_garbled_ok root)

/-- Nobody deals with a fault of reading. -/
theorem runCheck_garbled (format : Format) (verbose : Bool) :
    (∃ fault, (runCheck world commit repo format config verbose).problem =
      some (.failure (.undecodable fault))) ↔
      Garbled (checkRun world repo commit config).outcome := by
  rw [runCheck_eq]
  dsimp only [problemOf]
  cases (checkRun world repo commit config).outcome with
  | ok root => exact iff_of_false nofun (not_garbled_ok root)
  | error failure =>
    rw [garbled_error]
    cases failure with
    | git | noFile | system | config | noConfig | badValue | tooLarge | undecodable | badPattern =>
      simp [isSystemFailure, badParameter]

/-- What is asked of git in a directory comes to a result, or to a failure that is put down to git,
exactly if its answers are in UTF-8. Else it breaks off over reading. So does a check, over an
answer to one of its questions, and this is what it ends with. -/
theorem answers_settle_iff (hstart : Git.Starts world.tree repo)
    (hcommit : Char.ofNat 0 ∉ commit.toList) :
    SettlesIf (Git.root world.git world.tree repo).outcome
      (Git.Legible world.git Git.rootQuestion) ∧
    SettlesIf (Git.files world.git world.tree repo commit).outcome
      (Git.Legible world.git (Git.namesQuestion commit) ∧
        (Git.lists world.git commit = true → Git.Legible world.git Git.rootQuestion)) ∧
    SettlesIf (Git.change world.git world.tree repo commit).outcome
      (Git.Legible world.git (Git.changeQuestion commit)) ∧
    ∀ {line name explicit verbose config},
      readRequest line = .ok (.check commit repo name explicit verbose) →
      Format.ofName? name ≠ none → loadConfig world.tree repo explicit = .ok config →
      ((∃ fault, (runLine world line).problem = some (.failure (.undecodable fault))) ↔
        ∃ question ∈ questionsIn (runLine world line).trace,
          ¬ Git.Legible world.git question) := by
  refine ⟨Git.settlesIf_root hstart, Git.settlesIf_files hstart hcommit,
    Git.settlesIf_change hstart hcommit, ?_⟩
  intro line name explicit verbose config hline hname hload
  obtain ⟨format, hformat⟩ := Option.ne_none_iff_exists'.1 hname
  have hrun : runLine world line = runCheck world commit repo format config verbose := by
    rw [← execute_check hformat hload]
    simp only [runLine, hline]
  have htrace : (runCheck world commit repo format config verbose).trace =
      (checkRun world repo commit config).trace := by rw [runCheck_eq]
  rw [hrun, runCheck_garbled, htrace]
  exact strict_checkRun

/-- A repository where git answers about a commit in the way given. -/
def answeringWorld (names change : List UInt8) : World :=
  { tree := bareTree
    git := some fun arguments =>
      match arguments with
      | "rev-parse" :: _ => ⟨Utf8.encode "/\n", Utf8.encode "", 0⟩
      | "diff-tree" :: _ => ⟨names, Utf8.encode "", 0⟩
      | _ => ⟨change, Utf8.encode "", 0⟩
    now := ⟨2000, 1, 1, 0, 0, 0⟩ }

/-- A line with a letter in Latin-1. -/
def latinBytes : List UInt8 := [0x2B, 0x63, 0x61, 0x66, 0xE9, 0x0A]

theorem not_isText_latin : ¬ Utf8.IsText latinBytes := by
  rw [Utf8.isText_iff]
  change ¬ Returns (Utf8.decodeChars latinBytes)
  decide +kernel

/-- A name of a file is in Latin-1, and what is asked besides is answered in UTF-8. -/
theorem answers_settle_iff_latin_name :
    Git.Starts bareTree ⟨.relative, []⟩ ∧ Char.ofNat 0 ∉ "HEAD".toList ∧
    Settles (Git.root (answeringWorld latinBytes (Utf8.encode "+é\n")).git bareTree
      ⟨.relative, []⟩).outcome ∧
    Garbled (Git.files (answeringWorld latinBytes (Utf8.encode "+é\n")).git bareTree ⟨.relative, []⟩
      "HEAD").outcome ∧
    Settles (Git.change (answeringWorld latinBytes (Utf8.encode "+é\n")).git bareTree
      ⟨.relative, []⟩ "HEAD").outcome := by
  have hstart : Git.Starts bareTree ⟨.relative, []⟩ := ⟨by decide +kernel, by decide +kernel⟩
  have hcommit : Char.ofNat 0 ∉ "HEAD".toList := by decide +kernel
  have h := @answers_settle_iff (answeringWorld latinBytes (Utf8.encode "+é\n")) _ _ hstart hcommit
  obtain ⟨hroot, hfiles, hchange, -⟩ := h
  refine ⟨hstart, hcommit, hroot.settles.2 ?_, hfiles.garbled.2 ?_, hchange.settles.2 ?_⟩
  · exact Git.legible_some.2 ⟨⟨"/\n", rfl⟩, ⟨"", rfl⟩⟩
  · exact fun h => not_isText_latin (Git.legible_some.1 h.1).1
  · exact Git.legible_some.2 ⟨⟨"+é\n", rfl⟩, ⟨"", rfl⟩⟩

/-- A change with a letter in Latin-1 in it ends the check. -/
theorem latin_answer_unsettled :
    Git.Starts bareTree ⟨.relative, []⟩ ∧ Char.ofNat 0 ∉ "HEAD".toList ∧
    ¬ Settles (Git.change (answeringWorld [] latinBytes).git bareTree ⟨.relative, []⟩
      "HEAD").outcome ∧
    (runLine (answeringWorld [] latinBytes) ["check"]).status = 1 ∧
    (runLine (answeringWorld [] latinBytes) ["check"]).problem =
      some (.failure (.undecodable ⟨.invalidContinuation, 0xE9, 4, 4⟩)) := by
  have hstart : Git.Starts bareTree ⟨.relative, []⟩ := ⟨by decide +kernel, by decide +kernel⟩
  have hcommit : Char.ofNat 0 ∉ "HEAD".toList := by decide +kernel
  refine ⟨hstart, hcommit, fun hsettles => ?_, by decide +kernel, by decide +kernel⟩
  have hlegible := (Git.settlesIf_change hstart hcommit).settles.1 hsettles
  exact not_isText_latin (Git.legible_some.1 hlegible).1

end Command

end CommitRules
