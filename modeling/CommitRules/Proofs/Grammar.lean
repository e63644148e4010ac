import CommitRules.Config.Read
import CommitRules.Proofs.Runs
import Mathlib.Data.List.Forall2

/-!
# CommitRules.Proofs.Grammar

Which documents are configurations, and of what rules, said without the reader.

* `IsConfig`: the grammar, from the keys of the document down to the letters of flags.
* `readRule_iff`, `readRules_iff`: the readers accept what the grammar says and nothing else.
-/

namespace CommitRules

open CommitRules.Regex

/-! ## The grammar -/

/-- The letters of the flags that a configuration may give. -/
def knownLetters : List Char := ['i', 'm', 's', 'x']

/-- Some flags and those of some letters. -/
def Regex.Options.withLetters (options : Options) (letters : List Char) : Options :=
  { options with
    ignoreCase := options.ignoreCase || letters.contains 'i'
    multiLine := options.multiLine || letters.contains 'm'
    dotAll := options.dotAll || letters.contains 's'
    verbose := options.verbose || letters.contains 'x' }

/-- The entry of a key that says which files a rule is about. -/
inductive IsFiles : Option Value → FileScope → Prop where
  | absent : IsFiles none .all
  | null : IsFiles (some .null) .all
  | one (glob : String) : IsFiles (some (.text glob)) (.one glob)
  | several {globs : List String} (hsome : globs ≠ []) :
      IsFiles (some (.list (globs.map .text))) (.several globs)

/-- The entry of a key that says how many lines count. -/
inductive IsHead : Option Value → Nat → Prop where
  | absent : IsHead none 10
  | given {count : Nat} (hpos : 0 < count) : IsHead (some (.int count)) count

/-- The entry of a key that names a level. -/
inductive IsLevel : Option Value → Level → Prop where
  | error : IsLevel (some (.text "error")) .error
  | warning : IsLevel (some (.text "warning")) .warning
  | info : IsLevel (some (.text "info")) .info

/-- The entry of a key that gives the letters of flags. -/
inductive IsFlags : Option Value → List Char → Prop where
  | absent : IsFlags none []
  | given {flags : String} (hflags : ∀ c ∈ flags.toList, c ∈ knownLetters) :
      IsFlags (some (.text flags)) flags.toList

/-- A table that gives a regular expression. -/
inductive IsRegex (table : Table) (pattern : RegexPattern) : Prop where
  | intro {letters : List Char}
      (hkeys : ∀ key ∈ table.keys, key ∈ ["regex", "flags"])
      (hsource : table.lookup "regex" = some (.text pattern.source))
      (hflags : IsFlags (table.lookup "flags") letters)
      (hread : readPattern (Options.none.withLetters letters) pattern.source.toList =
        .ok (pattern.node, pattern.options))

/-- The entry of a key that says what is looked for. -/
inductive IsFind : Option Value → Option Find → Prop where
  | absent : IsFind none none
  | null : IsFind (some .null) none
  | literal (text : String) : IsFind (some (.text text)) (some (.literal text))
  | anyOf (options : List String) :
      IsFind (some (.list (options.map .text))) (some (.anyOf options))
  | regex {table : Table} {pattern : RegexPattern} (h : IsRegex table pattern) :
      IsFind (some (.table table)) (some (.regex pattern))

/-- A table that gives a rule. -/
structure IsRule (table : Table) (rule : Rule) : Prop where
  keys : ∀ key ∈ table.keys, key ∈ ["files", "pattern", "level", "find", "head"]
  label : table.lookup "pattern" = some (.text rule.label)
  level : IsLevel (table.lookup "level") rule.level
  files : IsFiles (table.lookup "files") rule.files
  find : IsFind (table.lookup "find") rule.find
  head : IsHead (table.lookup "head") rule.head

/-- An item of a list of rules. -/
inductive IsItem : Value → Rule → Prop where
  | table {table : Table} {rule : Rule} (h : IsRule table rule) : IsItem (.table table) rule

/-- The entry of a key that lists rules. -/
inductive IsRules : Option Value → List Rule → Prop where
  | absent : IsRules none []
  | null : IsRules (some .null) []
  | list {items : List Value} {rules : List Rule} (h : List.Forall₂ IsItem items rules) :
      IsRules (some (.list items)) rules

/-- A document that gives a configuration. -/
structure IsConfig (document : Table) (rules : List Rule) : Prop where
  keys : ∀ key ∈ document.keys, key ∈ ["rules"]
  rules : IsRules (document.lookup "rules") rules

/-! ## Flags -/

theorem withLetters_append (options : Options) (first second : List Char) :
    (options.withLetters first).withLetters second = options.withLetters (first ++ second) := by
  simp [Options.withLetters, Bool.or_assoc]

theorem withLetters_nil (options : Options) : options.withLetters [] = options := by
  simp [Options.withLetters]

theorem addLetter_iff {options result : Options} {c : Char} :
    RegexPattern.addLetter options c = .ok result ↔
      c ∈ knownLetters ∧ options.withLetters [c] = result := by
  unfold RegexPattern.addLetter
  split
  all_goals simp_all [knownLetters, Options.withLetters]

/-! ## Readers -/

theorem foldlM_addLetter {options result : Options} (letters : List Char) :
    letters.foldlM RegexPattern.addLetter options = .ok result ↔
      (∀ c ∈ letters, c ∈ knownLetters) ∧ options.withLetters letters = result := by
  induction letters generalizing options with
  | nil =>
    rw [List.foldlM_nil, withLetters_nil]
    exact ⟨fun h => ⟨List.forall_mem_nil _, Except.ok.inj h⟩, fun h => congrArg _ h.2⟩
  | cons c letters ih =>
    rw [List.foldlM_cons, except_bind_iff, List.forall_mem_cons]
    constructor
    · rintro ⟨options', hc, hrest⟩
      obtain ⟨hmem, rfl⟩ := addLetter_iff.1 hc
      obtain ⟨hletters, rfl⟩ := ih.1 hrest
      exact ⟨⟨hmem, hletters⟩, (withLetters_append _ [c] letters).symm⟩
    · rintro ⟨⟨hmem, hletters⟩, rfl⟩
      exact ⟨_, addLetter_iff.2 ⟨hmem, rfl⟩, ih.2 ⟨hletters, withLetters_append _ [c] letters⟩⟩

theorem ofSource_iff {source flags : String} {pattern : RegexPattern} :
    RegexPattern.ofSource source flags = .ok pattern ↔
      (∀ c ∈ flags.toList, c ∈ knownLetters) ∧ pattern.source = source ∧
      readPattern (Options.none.withLetters flags.toList) source.toList =
        .ok (pattern.node, pattern.options) := by
  rw [RegexPattern.ofSource, except_bind_iff]
  constructor
  · rintro ⟨options, hflags, h⟩
    obtain ⟨hletters, rfl⟩ := (foldlM_addLetter _).1 hflags
    split at h
    · next node options hread => cases h; exact ⟨hletters, rfl, hread⟩
    · cases h
  · rintro ⟨hletters, rfl, hread⟩
    refine ⟨_, (foldlM_addLetter _).2 ⟨hletters, rfl⟩, ?_⟩
    rw [hread]
    rfl

theorem checkKeys_iff {table : Table} {allowed : List String} {field : String} {checked : Unit} :
    checkKeys table allowed field = .ok checked ↔ ∀ key ∈ table.keys, key ∈ allowed := by
  have hunknown : unknownKeys table allowed = [] ↔ ∀ key ∈ table.keys, key ∈ allowed := by
    rw [unknownKeys, ← List.length_eq_zero_iff, List.length_mergeSort, List.length_eq_zero_iff,
      List.filter_eq_nil_iff]
    simp
  rw [← hunknown, checkKeys]
  split
  · next h => exact ⟨fun _ => h, fun _ => rfl⟩
  · next h => exact ⟨nofun, fun hnil => (h hnil).elim⟩

theorem allTexts?_iff {items : List Value} {texts : List String} :
    allTexts? items = some texts ↔ items = texts.map .text := by
  induction items generalizing texts with
  | nil => cases texts <;> simp [allTexts?]
  | cons item items ih =>
    cases item with
    | text text =>
      rw [allTexts?, Option.map_eq_some_iff]
      constructor
      · rintro ⟨rest, hrest, rfl⟩
        rw [List.map_cons, ih.1 hrest]
      · intro h
        cases texts with
        | nil => cases h
        | cons first rest =>
          cases h
          exact ⟨rest, ih.2 rfl, rfl⟩
    | _ => cases texts <;> simp [allTexts?]

theorem readText_iff {value : Value} {field text : String} :
    readText value field = .ok text ↔ value = .text text := by
  cases value <;> simp [readText, refuseConfig]

theorem readFiles_iff {entry : Option Value} {field : String} {files : FileScope} :
    readFiles (entry.getD .null) field = .ok files ↔ IsFiles entry files := by
  constructor
  · intro h
    cases entry with
    | none => cases h; exact .absent
    | some value =>
      cases value with
      | null => cases h; exact .null
      | text glob => cases h; exact .one glob
      | list items =>
        cases items with
        | nil => cases h
        | cons item items =>
          simp only [Option.getD_some, readFiles] at h
          split at h
          · next globs hglobs =>
            cases h
            rw [allTexts?_iff.1 hglobs]
            refine .several fun hnil => ?_
            rw [hnil] at hglobs
            cases allTexts?_iff.1 hglobs
          · cases h
      | _ => cases h
  · intro h
    cases h with
    | absent => rfl
    | null => rfl
    | one glob => rfl
    | @several globs hsome =>
      obtain ⟨glob, rest, rfl⟩ := List.exists_cons_of_ne_nil hsome
      have hglobs := allTexts?_iff.2 (Eq.refl ((glob :: rest).map Value.text))
      rw [List.map_cons] at hglobs ⊢
      simp only [Option.getD_some, readFiles, hglobs]

theorem readHeadCount_iff {entry : Option Value} {field : String} {head : Nat} :
    readHeadCount entry field = .ok head ↔ IsHead entry head := by
  constructor
  · intro h
    cases entry with
    | none => cases h; exact .absent
    | some value =>
      cases value with
      | int count =>
        rw [readHeadCount] at h
        split at h
        · cases h
        · next hpos =>
          obtain ⟨count, rfl⟩ := Int.eq_ofNat_of_zero_le (Int.le_of_lt (Int.not_le.1 hpos))
          cases h
          exact .given (by omega)
      | _ => cases h
  · intro h
    cases h with
    | absent => rfl
    | given hpos => rw [readHeadCount, if_neg (by omega), Int.toNat_natCast]

theorem readLevel_iff {entry : Option Value} {field : String} {level : Level} :
    readLevel (entry.getD .null) field = .ok level ↔ IsLevel entry level := by
  constructor
  · intro h
    cases entry with
    | none => cases h
    | some value =>
      cases value with
      | text name =>
        simp only [Option.getD_some, readLevel] at h
        split at h
        · next found hfound =>
          cases h
          have hname := List.find?_some hfound
          rw [beq_iff_eq] at hname
          subst hname
          cases level with
          | error => exact .error
          | warning => exact .warning
          | info => exact .info
        · cases h
      | _ => cases h
  · intro h
    cases h <;> rfl

theorem get_eq_text {table : Table} {key text : String} :
    table.get key = .text text ↔ table.lookup key = some (.text text) := by
  rw [Table.get]
  cases table.lookup key <;> simp

theorem isFlags_iff {entry : Option Value} {letters : List Char} :
    IsFlags entry letters ↔ ∃ flags : String, entry.getD (.text "") = .text flags ∧
      flags.toList = letters ∧ ∀ c ∈ letters, c ∈ knownLetters := by
  constructor
  · intro h
    cases h with
    | absent => exact ⟨"", rfl, rfl, List.forall_mem_nil _⟩
    | given hflags => exact ⟨_, rfl, rfl, hflags⟩
  · rintro ⟨flags, hentry, rfl, hletters⟩
    cases entry with
    | none =>
      cases hentry
      exact .absent
    | some value =>
      cases hentry
      exact .given hletters

theorem readRegex_iff {table : Table} {field : String} {find : Find} :
    readRegex table field = .ok find ↔
      ∃ pattern, IsRegex table pattern ∧ find = .regex pattern := by
  simp only [readRegex, except_bind_iff, checkKeys_iff, readText_iff, get_eq_text]
  constructor
  · rintro ⟨-, hkeys, source, hsource, flags, hflags, h⟩
    split at h
    · next pattern hpattern =>
      cases h
      obtain ⟨hletters, rfl, hread⟩ := ofSource_iff.1 hpattern
      exact ⟨pattern, ⟨hkeys, hsource, isFlags_iff.2 ⟨flags, hflags, rfl, hletters⟩, hread⟩, rfl⟩
    · cases h
    · cases h
    · cases h
  · rintro ⟨pattern, ⟨hkeys, hsource, hflags, hread⟩, rfl⟩
    obtain ⟨flags, hentry, rfl, hletters⟩ := isFlags_iff.1 hflags
    refine ⟨(), hkeys, pattern.source, hsource, flags, hentry, ?_⟩
    rw [ofSource_iff.2 ⟨hletters, rfl, hread⟩]
    rfl

theorem readFind_iff {entry : Option Value} {field : String} {find : Option Find} :
    readFind (entry.getD .null) field = .ok find ↔ IsFind entry find := by
  constructor
  · intro h
    cases entry with
    | none => cases h; exact .absent
    | some value =>
      cases value with
      | null => cases h; exact .null
      | text text => cases h; exact .literal text
      | list items =>
        simp only [Option.getD_some, readFind] at h
        split at h
        · next options hoptions =>
          cases h
          rw [allTexts?_iff.1 hoptions]
          exact .anyOf options
        · cases h
      | table table =>
        simp only [Option.getD_some, readFind] at h
        cases hregex : readRegex table field with
        | error failure => rw [hregex] at h; cases h
        | ok regex =>
          rw [hregex] at h
          cases h
          obtain ⟨pattern, hpattern, rfl⟩ := readRegex_iff.1 hregex
          exact .regex hpattern
      | _ => cases h
  · intro h
    cases h with
    | absent => rfl
    | null => rfl
    | literal text => rfl
    | anyOf options =>
      simp only [Option.getD_some, readFind, allTexts?_iff.2 (Eq.refl (options.map Value.text))]
    | regex hpattern =>
      simp only [Option.getD_some, readFind, readRegex_iff.2 ⟨_, hpattern, rfl⟩]
      rfl

theorem readRule_iff {table : Table} {field : String} {rule : Rule} :
    readRule table field = .ok rule ↔ IsRule table rule := by
  simp only [readRule, except_bind_iff, checkKeys_iff, readText_iff, get_eq_text]
  constructor
  · rintro ⟨-, hkeys, files, hfiles, head, hhead, label, hlabel, level, hlevel, find, hfind, h⟩
    cases h
    exact ⟨hkeys, hlabel, readLevel_iff.1 hlevel, readFiles_iff.1 hfiles, readFind_iff.1 hfind,
      readHeadCount_iff.1 hhead⟩
  · intro h
    exact ⟨(), h.keys, _, readFiles_iff.2 h.files, _, readHeadCount_iff.2 h.head, _, h.label, _,
      readLevel_iff.2 h.level, _, readFind_iff.2 h.find, rfl⟩

/-! ## Lists of rules -/

/-- Reads one item of a list of rules. -/
def readItem (index : Nat) (item : Value) : Except Failure Rule :=
  match item with
  | .table table => readRule table s!"rules[{index}]"
  | _ => refuseConfig s!"rules[{index}] must be a table/object"

theorem readRules_cons (index : Nat) (item : Value) (items : List Value) :
    readRules index (item :: items) = do
      let rule ← readItem index item
      return rule :: (← readRules (index + 1) items) := by
  cases item <;> rfl

theorem readItem_iff {index : Nat} {item : Value} {rule : Rule} :
    readItem index item = .ok rule ↔ IsItem item rule := by
  constructor
  · intro h
    cases item with
    | table table => exact .table (readRule_iff.1 h)
    | _ => cases h
  · intro h
    cases h with
    | table hrule => exact readRule_iff.2 hrule

theorem readRules_iff {index : Nat} {items : List Value} {rules : List Rule} :
    readRules index items = .ok rules ↔ List.Forall₂ IsItem items rules := by
  induction items generalizing index rules with
  | nil =>
    rw [List.forall₂_nil_left_iff]
    exact ⟨fun h => (Except.ok.inj h).symm, fun h => congrArg _ h.symm⟩
  | cons item items ih =>
    simp only [readRules_cons, except_bind_iff, readItem_iff, ih]
    constructor
    · rintro ⟨rule, hrule, more, hmore, h⟩
      cases h
      exact .cons hrule hmore
    · intro h
      cases h with
      | cons hrule hmore => exact ⟨_, hrule, _, hmore, rfl⟩

end CommitRules
