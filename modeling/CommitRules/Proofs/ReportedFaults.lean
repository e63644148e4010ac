import CommitRules.Proofs.Documents
import CommitRules.Proofs.RepeatCounts

/-!
# CommitRules.Proofs.ReportedFaults

Which documents are refused as configurations. Whatever is wrong with one is reported as wrong with
the configuration, but for an expression whose reading finds a count that is too large: that ends as
it is.

* `readRule_too_large`: the tables in which nothing but such a count is wrong.
* `readConfig_too_large`: the documents in which such a table is the first item that is no rule.
* `readConfig_reported_iff`: all other documents are read or reported.
-/

namespace CommitRules

open CommitRules.Regex

/-- A table that is right in everything but its expression, whose reading finds a count that is too
large. -/
inductive AsksTooMuch (table : Table) : Prop where
  | intro {label source : String} {level : Level} {files : FileScope} {head : Nat} {regex : Table}
      {letters : List Char}
      (hkeys : ∀ key ∈ table.keys, key ∈ ["files", "pattern", "level", "find", "head"])
      (hlabel : table.lookup "pattern" = some (.text label))
      (hlevel : IsLevel (table.lookup "level") level)
      (hfiles : IsFiles (table.lookup "files") files)
      (hhead : IsHead (table.lookup "head") head)
      (hfind : table.lookup "find" = some (.table regex))
      (hregex : ∀ key ∈ regex.keys, key ∈ ["regex", "flags"])
      (hsource : regex.lookup "regex" = some (.text source))
      (hflags : IsFlags (regex.lookup "flags") letters)
      (hcount : HasHugeCount (Options.none.withLetters letters) source.toList)

/-- A document whose first item that is no rule is such a table. -/
inductive FailsByCount (document : Table) : Prop where
  | intro {before later : List Value} {table : Table}
      (hkeys : ∀ key ∈ document.keys, key ∈ ["rules"])
      (hrules : document.lookup "rules" = some (.list (before ++ .table table :: later)))
      (hbefore : ∀ earlier ∈ before, ∃ rule, IsItem earlier rule)
      (htable : AsksTooMuch table)

/-- What is said of a count that is too large. -/
def countMessage : String := "the repetition number is too large"

/-! ## Tables -/

section Readers

variable {table : Table} {field message : String} {value : Value}

theorem checkKeys_ne_tooLarge {allowed : List String} :
    checkKeys table allowed field ≠ .error (.tooLarge message) := by
  unfold checkKeys
  split <;> nofun

theorem readText_ne_tooLarge : readText value field ≠ .error (.tooLarge message) := by
  unfold readText
  split <;> nofun

theorem readFiles_ne_tooLarge : readFiles value field ≠ .error (.tooLarge message) := by
  unfold readFiles
  dsimp only
  split
  · nofun
  · nofun
  · split <;> nofun
  · nofun

theorem readHeadCount_ne_tooLarge {entry : Option Value} :
    readHeadCount entry field ≠ .error (.tooLarge message) := by
  unfold readHeadCount
  split
  · nofun
  · split <;> nofun
  · nofun

theorem readLevel_ne_tooLarge : readLevel value field ≠ .error (.tooLarge message) := by
  unfold readLevel
  dsimp only
  split
  · split <;> nofun
  · nofun

theorem ofSource_too_large {source flags : String} :
    RegexPattern.ofSource source flags = .error (.tooLarge message) ↔
      (∀ c ∈ flags.toList, c ∈ knownLetters) ∧ message = countMessage ∧
        HasHugeCount (Options.none.withLetters flags.toList) source.toList := by
  rw [RegexPattern.ofSource, ← readPattern_too_large]
  constructor
  · intro h
    rcases bind_error h with h | ⟨options, hflags, h⟩
    · obtain ⟨_, hvalue⟩ := foldlM_addLetter_fails h
      cases hvalue
    · obtain ⟨hletters, rfl⟩ := (foldlM_addLetter _).1 hflags
      split at h
      · cases h
      · next fault hread =>
        cases fault with
        | boundTooLarge => cases h; exact ⟨hletters, rfl, hread⟩
        | _ => cases h
  · rintro ⟨hletters, rfl, hread⟩
    rw [(foldlM_addLetter _).2 ⟨hletters, rfl⟩]
    simp only [bind, Except.bind, hread]
    rfl

theorem readRegex_too_large :
    readRegex table field = .error (.tooLarge message) ↔
      message = countMessage ∧ ∃ source letters, (∀ key ∈ table.keys, key ∈ ["regex", "flags"]) ∧
        table.lookup "regex" = some (.text source) ∧ IsFlags (table.lookup "flags") letters ∧
        HasHugeCount (Options.none.withLetters letters) source.toList := by
  constructor
  · intro h
    rcases bind_error h with h | ⟨_, hkeys, h⟩
    · exact absurd h checkKeys_ne_tooLarge
    rcases bind_error h with h | ⟨source, hsource, h⟩
    · exact absurd h readText_ne_tooLarge
    rcases bind_error h with h | ⟨flags, hflags, h⟩
    · exact absurd h readText_ne_tooLarge
    split at h
    · cases h
    · cases h
    · cases h
    · next failure _ _ hfailure =>
      cases h
      obtain ⟨hletters, hmessage, hcount⟩ := ofSource_too_large.1 hfailure
      exact ⟨hmessage, source, flags.toList, checkKeys_iff.1 hkeys,
        get_eq_text.1 (readText_iff.1 hsource),
        isFlags_iff.2 ⟨flags, readText_iff.1 hflags, rfl, hletters⟩, hcount⟩
  · rintro ⟨rfl, source, letters, hkeys, hsource, hflags, hcount⟩
    obtain ⟨flags, hentry, rfl, hletters⟩ := isFlags_iff.1 hflags
    have hchecked : checkKeys table ["regex", "flags"] field = .ok () := checkKeys_iff.2 hkeys
    unfold readRegex
    rw [hchecked, readText_iff.2 (get_eq_text.2 hsource), readText_iff.2 hentry]
    simp only [bind, Except.bind, ofSource_too_large.2 ⟨hletters, rfl, hcount⟩]

theorem readFind_too_large {entry : Option Value} :
    readFind (entry.getD .null) field = .error (.tooLarge message) ↔
      ∃ regex, entry = some (.table regex) ∧ readRegex regex field = .error (.tooLarge message) := by
  constructor
  · intro h
    cases entry with
    | none => cases h
    | some value =>
      cases value with
      | table regex =>
        refine ⟨regex, rfl, ?_⟩
        simp only [Option.getD_some, readFind] at h
        cases hregex : readRegex regex field with
        | error failure => rw [hregex] at h; cases h; rfl
        | ok find => rw [hregex] at h; cases h
      | list items =>
        simp only [Option.getD_some, readFind] at h
        split at h <;> cases h
      | _ => cases h
  · rintro ⟨regex, rfl, h⟩
    simp only [Option.getD_some, readFind, h]
    rfl

theorem readRule_too_large :
    readRule table field = .error (.tooLarge message) ↔
      message = countMessage ∧ AsksTooMuch table := by
  constructor
  · intro h
    rcases bind_error h with h | ⟨_, hkeys, h⟩
    · exact absurd h checkKeys_ne_tooLarge
    rcases bind_error h with h | ⟨files, hfiles, h⟩
    · exact absurd h readFiles_ne_tooLarge
    rcases bind_error h with h | ⟨head, hhead, h⟩
    · exact absurd h readHeadCount_ne_tooLarge
    rcases bind_error h with h | ⟨label, hlabel, h⟩
    · exact absurd h readText_ne_tooLarge
    rcases bind_error h with h | ⟨level, hlevel, h⟩
    · exact absurd h readLevel_ne_tooLarge
    rcases bind_error h with h | ⟨find, -, h⟩
    · obtain ⟨regex, hfind, hread⟩ := readFind_too_large.1 h
      obtain ⟨hmessage, source, letters, hregex, hsource, hflags, hcount⟩ :=
        readRegex_too_large.1 hread
      exact ⟨hmessage, checkKeys_iff.1 hkeys, get_eq_text.1 (readText_iff.1 hlabel),
        readLevel_iff.1 hlevel, readFiles_iff.1 hfiles, readHeadCount_iff.1 hhead, hfind, hregex,
        hsource, hflags, hcount⟩
    · cases h
  · rintro ⟨rfl, hkeys, hlabel, hlevel, hfiles, hhead, hfind, hregex, hsource, hflags, hcount⟩
    have hchecked : checkKeys table ruleKeys field = .ok () := checkKeys_iff.2 hkeys
    have hfilesRead : readFiles (table.get "files") (field ++ ".files") = .ok _ :=
      readFiles_iff.2 hfiles
    have hlevelRead : readLevel (table.get "level") (field ++ ".level") = .ok _ :=
      readLevel_iff.2 hlevel
    have hfailure : readFind (table.get "find") (field ++ ".find") =
        .error (.tooLarge countMessage) :=
      readFind_too_large.2 ⟨_, hfind, readRegex_too_large.2
        ⟨rfl, _, _, hregex, hsource, hflags, hcount⟩⟩
    unfold readRule
    rw [hchecked]
    simp only [bind, Except.bind, hfilesRead, readHeadCount_iff.2 hhead,
      readText_iff.2 (get_eq_text.2 hlabel), hlevelRead, hfailure]

end Readers

/-! ## Documents -/

theorem readItem_too_large {index : Nat} {item : Value} {message : String} :
    readItem index item = .error (.tooLarge message) ↔
      message = countMessage ∧ ∃ table, item = .table table ∧ AsksTooMuch table := by
  constructor
  · intro h
    cases item with
    | table table =>
      obtain ⟨hmessage, htable⟩ := readRule_too_large.1 h
      exact ⟨hmessage, table, rfl, htable⟩
    | _ => cases h
  · rintro ⟨hmessage, table, rfl, htable⟩
    exact readRule_too_large.2 ⟨hmessage, htable⟩

theorem readRules_too_large {index : Nat} {before later : List Value} {table : Table}
    (hbefore : ∀ earlier ∈ before, ∃ rule, IsItem earlier rule) (htable : AsksTooMuch table) :
    readRules index (before ++ .table table :: later) = .error (.tooLarge countMessage) := by
  induction before generalizing index with
  | nil =>
    have hitem : readItem index (.table table) = .error (.tooLarge countMessage) :=
      readItem_too_large.2 ⟨rfl, table, rfl, htable⟩
    rw [List.nil_append, readRules_cons, hitem]
    rfl
  | cons item before ih =>
    obtain ⟨⟨rule, hrule⟩, hbefore⟩ := List.forall_mem_cons.1 hbefore
    rw [List.cons_append, readRules_cons, readItem_iff.2 hrule]
    simp only [bind, Except.bind, ih hbefore]

theorem readConfig_too_large {document : Table} {source : Option String} {message : String} :
    readConfig document source = .error (.tooLarge message) ↔
      message = countMessage ∧ FailsByCount document := by
  constructor
  · intro h
    rcases bind_error h with h | ⟨_, hchecked, h⟩
    · exact absurd h checkKeys_ne_tooLarge
    have hkeys := checkKeys_iff.1 hchecked
    split at h
    · cases h
    · next items hget =>
      have hrules : document.lookup "rules" = some (.list items) := by
        rw [Table.get] at hget
        cases hentry : document.lookup "rules" with
        | none => rw [hentry] at hget; cases hget
        | some value => rw [hentry] at hget; cases hget; rfl
      rcases bind_error h with h | ⟨rules, -, h⟩
      · obtain ⟨before, item, later, rfl, hbefore, -, hitem, -⟩ := readRules_fails h
        obtain ⟨hmessage, table, rfl, htable⟩ := readItem_too_large.1 hitem
        exact ⟨hmessage, hkeys, hrules, hbefore, htable⟩
      · cases h
    · cases h
  · rintro ⟨rfl, hkeys, hrules, hbefore, htable⟩
    rw [readConfig_list hkeys hrules, readRules_too_large hbefore htable]
    rfl

end CommitRules
