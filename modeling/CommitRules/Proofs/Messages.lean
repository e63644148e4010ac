import CommitRules.Check.Git
import CommitRules.Proofs.Evaluation
import CommitRules.Text.Terminal

/-!
# CommitRules.Proofs.Messages

What the file system has to say fits on a line: the paths in its messages are quoted, and a file is
not read unless it is there.

* `isPlainLine_quoted`: a quoted text is one line, without commands to a terminal.
* `applyRules_fails`: what can go wrong when rules are applied.
* `check_fails`, `Git.root_fails`, `Git.files_fails`: so is the message of a failure of the file
  system, whether it comes from applying rules or from starting git.
-/

namespace CommitRules

open CommitRules.Files
open CommitRules.Text

/-! ## Lines -/

namespace Text

/-- Whether a text is a line that a terminal shows as it is. -/
def IsPlainLine (text : String) : Prop := ∀ c ∈ text.toList, c ≠ '\n' ∧ c ≠ escapeMark

instance (text : String) : Decidable (IsPlainLine text) :=
  List.decidableBAll _ text.toList

theorem isPlainLine_append {first second : String} (hfirst : IsPlainLine first)
    (hsecond : IsPlainLine second) : IsPlainLine (first ++ second) := by
  intro c hc
  rw [String.toList_append, List.mem_append] at hc
  exact hc.elim (hfirst c) (hsecond c)

theorem plainBehind_of_not_mem {text : List Char} (h : escapeMark ∉ text) :
    plainBehind 0 text = text := by
  induction text with
  | nil => rfl
  | cons c rest ih =>
    have hc : c ≠ escapeMark := fun hc => h (hc ▸ List.mem_cons_self)
    rw [plainBehind, if_neg hc, ih fun hr => h (List.mem_cons_of_mem c hr)]

theorem plain_of_isPlainLine {text : String} (h : IsPlainLine text) : plain text = text := by
  have hmark : escapeMark ∉ text.toList := fun hmem => (h escapeMark hmem).2 rfl
  rw [plain, plainBehind_of_not_mem hmark, String.ofList_toList]

theorem mem_hexDigits {width n : Nat} {c : Char} (h : c ∈ hexDigits width n) :
    ∃ digit < 16, c = hexChar digit := by
  induction width generalizing n with
  | zero => cases h
  | succ width ih =>
    rcases List.mem_append.1 h with h | h
    · exact ih h
    · exact ⟨n % 16, Nat.mod_lt n (by decide), List.mem_singleton.1 h⟩

theorem mem_quoteChar {mark c d : Char} (hmark : mark ≠ '\n' ∧ mark ≠ escapeMark)
    (h : d ∈ quoteChar mark c) : d ≠ '\n' ∧ d ≠ escapeMark := by
  have hback : backslash ≠ '\n' ∧ backslash ≠ escapeMark := by decide
  have hdigit : ∀ digit < 16, hexChar digit ≠ '\n' ∧ hexChar digit ≠ escapeMark := by decide
  have hescape : ∀ (letter : Char) (width : Nat), (letter ≠ '\n' ∧ letter ≠ escapeMark) →
      d ∈ backslash :: letter :: hexDigits width c.toNat → d ≠ '\n' ∧ d ≠ escapeMark := by
    intro letter width hletter hd
    rcases List.mem_cons.1 hd with rfl | hd
    · exact hback
    rcases List.mem_cons.1 hd with rfl | hd
    · exact hletter
    obtain ⟨digit, hlt, rfl⟩ := mem_hexDigits hd
    exact hdigit digit hlt
  unfold quoteChar at h
  split at h
  · next hkept =>
    rcases List.mem_cons.1 h with rfl | h
    · exact hback
    obtain rfl := List.mem_singleton.1 h
    have hd : d = mark ∨ d = backslash := by simpa using hkept
    rcases hd with rfl | rfl
    · exact hmark
    · exact hback
  split at h
  · exact hescape 't' 0 (by decide) h
  split at h
  · exact hescape 'n' 0 (by decide) h
  split at h
  · exact hescape 'r' 0 (by decide) h
  · next hfeed _ =>
    split at h
    · next hprintable =>
      obtain rfl := List.mem_singleton.1 h
      refine ⟨hfeed, ?_⟩
      rintro rfl
      exact absurd hprintable (by decide)
    split at h
    · exact hescape _ _ (by decide) h
    split at h
    · exact hescape _ _ (by decide) h
    · exact hescape _ _ (by decide) h

theorem isPlainLine_quoted (text : String) : IsPlainLine (quoted text) := by
  intro c hc
  have hmark : quoteMark text.toList ≠ '\n' ∧ quoteMark text.toList ≠ escapeMark := by
    unfold quoteMark
    split <;> decide
  rw [quoted, String.toList_ofList, quotedChars, List.cons_append, List.mem_cons, List.mem_append,
    List.mem_flatMap, List.mem_singleton] at hc
  rcases hc with rfl | ⟨d, -, hd⟩ | rfl
  · exact hmark
  · exact mem_quoteChar hmark hd
  · exact hmark

end Text

/-! ## Failures -/

namespace Failure

/-- Whether a failure, if it comes from the file system, has a plain line for a message. -/
def IsPlain : Failure → Prop
  | .noFile path => IsPlainLine (Failure.noFile path).message
  | .system error subject => IsPlainLine (Failure.system error subject).message
  | _ => True

/-- Whether a failure is one of applying rules to files: of a glob, of a number of lines, or of the
file system, and then it has a plain line for a message. -/
def OfRules : Failure → Prop
  | .noFile path => IsPlainLine (Failure.noFile path).message
  | .system error subject => IsPlainLine (Failure.system error subject).message
  | .badValue _ | .badPattern _ => True
  | _ => False

theorem OfRules.isPlain {failure : Failure} (h : failure.OfRules) : failure.IsPlain := by
  cases failure with
  | noFile | system => exact h
  | config | noConfig | git | badValue | tooLarge | undecodable | badPattern => exact trivial

theorem isPlain_system (error : SystemError) {subject : String} (h : IsPlainLine subject) :
    (Failure.system error subject).IsPlain := by
  have hfront : IsPlainLine (s!"[Errno {error.number}] " ++ error.wording ++ ": ") := by
    cases error <;> decide +kernel
  exact isPlainLine_append hfront h

end Failure

theorem isPlain_tree (error : SystemError) (path : Path) : (Tree.failure error path).IsPlain :=
  Failure.isPlain_system error (isPlainLine_quoted path.text)

section Rules

variable {tree : Tree} {place : Place} {failure : Failure}

theorem takes_fails {globs : List String} {path : String}
    (h : Glob.takes globs path = .error failure) : ∃ message, failure = .badPattern message := by
  rcases bind_error h with h | ⟨entries, -, h⟩
  · obtain ⟨glob, -, h⟩ := mapM_error h
    have hcompile : ∃ variant, Glob.compile variant = .error failure := by
      unfold Glob.Entry.ofText at h
      split at h
      all_goals
        rcases bind_error h with h | ⟨nodes, -, h⟩
        · obtain ⟨variant, -, h⟩ := mapM_error h
          exact ⟨variant, h⟩
        · cases h
    obtain ⟨variant, h⟩ := hcompile
    unfold Glob.compile at h
    dsimp only at h
    split at h
    · cases h
    · cases h
      exact ⟨_, rfl⟩
  · cases h

theorem exists?_fails {path : Path} (h : tree.exists? path = .error failure) :
    failure.OfRules := by
  unfold Tree.exists? at h
  split at h
  · cases h
  · split at h
    · cases h
    · cases h
      exact isPlain_tree .nameTooLong path
    · cases h

theorem read_fails {path : Path} (h : tree.read path = .error failure) : failure.OfRules := by
  unfold Tree.read at h
  split at h
  · cases h
    exact trivial
  · split at h
    · cases h
    · cases h
      exact isPlain_tree .isDirectory path
    · next error _ =>
      cases h
      exact isPlain_tree error path

/-- A file that is there is not found missing when it is read. -/
theorem readHead_fails {file : String} {count : Int} (hthere : tree.holds (.ofText file) = true)
    (h : readHead tree file count = .error failure) : failure.OfRules := by
  unfold readHead at h
  cases hexists : tree.exists? (.ofText file) with
  | error other =>
    simp only [hexists, bind, Except.bind] at h
    cases h
    exact exists?_fails hexists
  | ok found =>
    obtain rfl : found = true := (Tree.exists?_ok hexists).trans hthere
    cases hread : tree.read (.ofText file) with
    | error other =>
      simp only [hexists, hread, bind, Except.bind] at h
      cases h
      exact read_fails hread
    | ok bytes =>
      simp only [hexists, hread, bind, Except.bind] at h
      split at h
      · next hmissing => cases hmissing
      · split at h
        · cases h
          exact trivial
        · cases h

theorem select_fails {scope : FileScope} {root : Option Path} {files : List String}
    (h : select tree scope root files = .error failure) : failure.OfRules := by
  rcases bind_error h with h | ⟨inside, -, h⟩
  · unfold inScope at h
    split at h
    · cases h
    · obtain ⟨file, -, h⟩ := filterM_error h
      obtain ⟨message, rfl⟩ := takes_fails h
      exact trivial
  · obtain ⟨file, -, h⟩ := filterM_error h
    exact exists?_fails h

theorem concerned_fails {rule : Rule} {files : List String}
    (hthere : ∀ file ∈ files, tree.holds (.ofText file) = true)
    (h : concerned tree rule files = .error failure) : failure.OfRules := by
  unfold concerned at h
  split at h
  · cases h
  · next find _ =>
    obtain ⟨file, hfile, h⟩ := filterM_error h
    unfold headHolds at h
    cases hread : readHead tree file rule.head with
    | error other =>
      rw [hread] at h
      cases h
      exact readHead_fails (hthere file hfile) hread
    | ok text =>
      rw [hread] at h
      cases h

theorem applyRule_fails {rule : Rule} {diff : List Char} {files : List String}
    (h : (applyRule place diff files rule).outcome = .error failure) : failure.OfRules := by
  cases hs : select place.tree rule.files place.root files with
  | error other =>
    rw [applyRule, hs, Run.ofExcept_error_bind] at h
    cases h
    exact select_fails hs
  | ok matched =>
    cases hc : concerned place.tree rule matched with
    | error other =>
      rw [applyRule, hs, Run.ofExcept_ok_bind, hc, Run.ofExcept_error_bind] at h
      cases h
      obtain rfl := select_ok hs
      refine concerned_fails (fun file hfile => ?_) hc
      have hcovers : rule.covers place file = true := (List.mem_filter.1 hfile).2
      exact (Bool.and_eq_true_iff.1 hcovers).1
    | ok withMatches =>
      rw [applyRule_of_ok hs hc] at h
      cases h

theorem applyRules_fails {rules : List Rule} {diff : List Char} {files : List String}
    (h : (applyRules place diff files rules).outcome = .error failure) : failure.OfRules := by
  obtain ⟨_, rule, _, _, _, hrule, _⟩ := Run.each_fails h
  exact applyRule_fails hrule

/-- If fetching the change fails with a plain line, if at all, so does a check. -/
theorem check_fails {session : Session} {fetch : String → Run String} {commit : String}
    {rules : List Rule} {files : List String}
    (hfetch : ∀ other, (fetch commit).outcome = .error other → other.IsPlain)
    (h : (session.check fetch commit place rules files).outcome = .error failure) :
    failure.IsPlain := by
  rcases Run.outcome_bind_error h with h | ⟨diff, -, h⟩
  · unfold DiffCache.get at h
    split at h
    · cases h
    · rcases Run.outcome_bind_error h with h | ⟨text, -, h⟩
      · exact hfetch _ h
      · cases h
  · exact (applyRules_fails h).isPlain

end Rules

/-! ## Git -/

namespace Git

variable {tool : Tool} {tree : Tree} {repo : Path} {failure : Failure}

theorem startFailure?_isPlain (h : startFailure? tree repo = some failure) : failure.IsPlain := by
  have hshown : IsPlainLine (shownPath repo) :=
    isPlainLine_append (isPlainLine_append (by decide) (isPlainLine_quoted _)) (by decide)
  unfold startFailure? at h
  split at h
  · cases h
  · cases h
    exact Failure.isPlain_system .notDirectory hshown
  · cases h
    exact trivial
  · next error _ _ =>
    cases h
    exact Failure.isPlain_system error hshown

theorem replyText_isPlain {arguments : List String} {reply : Reply}
    (h : replyText arguments reply = .error failure) : failure.IsPlain := by
  have hstream : ∀ {bytes : List UInt8}, streamText bytes = .error failure → failure.IsPlain := by
    intro bytes h
    unfold streamText at h
    split at h
    · cases h
    · cases h
      exact trivial
  rcases bind_error h with h | ⟨output, -, h⟩
  · exact hstream h
  rcases bind_error h with h | ⟨complaint, -, h⟩
  · exact hstream h
  split at h
  · cases h
  · dsimp only at h
    split at h
    · cases h
      exact trivial
    · cases h
      exact trivial

theorem call_fails {arguments : List String}
    (h : (call tool tree repo arguments).outcome = .error failure) : failure.IsPlain := by
  unfold call at h
  split at h
  · cases h
    exact trivial
  · split at h
    · next other _ hstart =>
      cases h
      exact startFailure?_isPlain hstart
    · cases h
      exact trivial
    · exact replyText_isPlain h

theorem root_fails (h : (root tool tree repo).outcome = .error failure) : failure.IsPlain := by
  rcases Run.outcome_bind_error h with h | ⟨output, -, h⟩
  · exact call_fails h
  · dsimp only at h
    split at h
    · cases h
      exact trivial
    · cases h

theorem files_fails {commit : String}
    (h : (files tool tree repo commit).outcome = .error failure) : failure.IsPlain := by
  rcases Run.outcome_bind_error h with h | ⟨output, -, h⟩
  · exact call_fails h
  · split at h
    · cases h
    · rcases Run.outcome_bind_error h with h | ⟨found, -, h⟩
      · exact root_fails h
      · cases h

end Git

end CommitRules
