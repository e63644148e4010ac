import CommitRules.Proofs.Grammar
import CommitRules.Proofs.Runs

/-!
# CommitRules.Proofs.Documents

Which documents are configurations, and what is reported of those that are not.

* `readRules_fails`: the first item of a list that is not a rule is reported, whatever follows it.
* `readConfig_iff`: the documents that are configurations, and of which rules.
* `readConfig_grammar`: both, for every document.
* `readConfig_fails`: how a document that is not a configuration is refused.
-/

namespace CommitRules

open CommitRules.Regex

/-! ## What is reported -/

/-- What a failure of the configuration says begins with the field it is about. -/
def Blames {α : Type} (field : String) (outcome : Except Failure α) : Prop :=
  ∀ message, outcome = .error (.config message) → ∃ more, message = field ++ more

/-- The failures that refuse a document over a field: what is said begins with the field, or an
expression repeats more often than can be counted. -/
inductive RefusedAt (field : String) : Failure → Prop
  | config (more : String) : RefusedAt field (.config (field ++ more))
  | tooLarge (message : String) : RefusedAt field (.tooLarge message)

theorem RefusedAt.kind {field : String} {failure : Failure} (h : RefusedAt field failure) :
    ∃ message, failure = .config message ∨ failure = .tooLarge message := by
  cases h with
  | config more => exact ⟨_, .inl rfl⟩
  | tooLarge message => exact ⟨message, .inr rfl⟩

/-- If something fails, then over a field. -/
def Refuses {α : Type} (field : String) (outcome : Except Failure α) : Prop :=
  ∀ failure, outcome = .error failure → RefusedAt field failure

section Refuses

variable {α β : Type} {field : String}

theorem Refuses.blames {outcome : Except Failure α} (h : Refuses field outcome) :
    Blames field outcome := by
  intro message houtcome
  cases h _ houtcome with
  | config more => exact ⟨more, rfl⟩

theorem refuses_ok (value : α) : Refuses field (.ok value) := nofun

theorem refuses_refuse (more : String) :
    Refuses field (refuseConfig (field ++ more) : Except Failure α) := by
  rintro failure ⟨⟩
  exact .config more

theorem refuses_refuse_with (more detail : String) :
    Refuses field (refuseConfig (field ++ more ++ detail) : Except Failure α) := by
  rw [String.append_assoc]
  exact refuses_refuse _

theorem refuses_part {outcome : Except Failure α} {more : String}
    (h : Refuses (field ++ more) outcome) : Refuses field outcome := by
  intro failure houtcome
  cases h failure houtcome with
  | config rest =>
    rw [String.append_assoc]
    exact .config (more ++ rest)
  | tooLarge message => exact .tooLarge message

theorem refuses_bind {first : Except Failure α} {next : α → Except Failure β}
    (hfirst : Refuses field first) (hnext : ∀ value, Refuses field (next value)) :
    Refuses field (first >>= next) := by
  intro failure h
  rcases bind_error h with h | ⟨value, -, h⟩
  · exact hfirst failure h
  · exact hnext value failure h

variable (field)

theorem refuses_checkKeys (table : Table) (allowed : List String) :
    Refuses field (checkKeys table allowed field) := by
  rw [checkKeys]
  split
  · exact refuses_ok _
  · exact refuses_refuse_with _ _

theorem refuses_readText (value : Value) : Refuses field (readText value field) := by
  cases value with
  | text text => exact refuses_ok _
  | _ => exact refuses_refuse _

theorem refuses_readFiles (value : Value) : Refuses field (readFiles value field) := by
  unfold readFiles
  split
  · exact refuses_ok _
  · exact refuses_ok _
  · dsimp only
    split
    · exact refuses_ok _
    · exact refuses_refuse _
  · exact refuses_refuse _

theorem refuses_readHeadCount (entry : Option Value) :
    Refuses field (readHeadCount entry field) := by
  unfold readHeadCount
  split
  · exact refuses_ok _
  · split
    · exact refuses_refuse _
    · exact refuses_ok _
  · exact refuses_refuse _

theorem refuses_readLevel (value : Value) : Refuses field (readLevel value field) := by
  unfold readLevel
  split
  · dsimp only
    split
    · exact refuses_ok _
    · exact refuses_refuse_with _ _
  · exact refuses_refuse_with _ _

theorem foldlM_addLetter_fails {letters : List Char} {options : Options} {failure : Failure}
    (h : letters.foldlM RegexPattern.addLetter options = .error failure) :
    ∃ message, failure = .badValue message := by
  induction letters generalizing options with
  | nil => cases h
  | cons c letters ih =>
    rw [List.foldlM_cons] at h
    rcases bind_error h with h | ⟨further, -, h⟩
    · unfold RegexPattern.addLetter at h
      split at h <;> cases h
      exact ⟨_, rfl⟩
    · exact ih h

/-- What can be wrong with an expression is not yet a failure of the configuration. -/
theorem ofSource_fails {source flags : String} {failure : Failure}
    (h : RegexPattern.ofSource source flags = .error failure) :
    ∃ message, failure = .badPattern message ∨ failure = .badValue message ∨
      failure = .tooLarge message := by
  rcases bind_error h with h | ⟨options, -, h⟩
  · obtain ⟨message, rfl⟩ := foldlM_addLetter_fails h
    exact ⟨message, .inr (.inl rfl)⟩
  · split at h
    · cases h
    · next fault _ =>
      cases h
      cases fault with
      | malformed | unsupported => exact ⟨_, .inl rfl⟩
      | boundTooLarge => exact ⟨_, .inr (.inr rfl)⟩
      | numeralTooLong | asciiAndUnicode => exact ⟨_, .inr (.inl rfl)⟩

theorem refuses_readRegex (table : Table) : Refuses field (readRegex table field) := by
  refine refuses_bind (refuses_checkKeys _ _ _) fun _ => ?_
  refine refuses_bind (refuses_part (refuses_readText _ _)) fun source => ?_
  refine refuses_bind (refuses_part (refuses_readText _ _)) fun flags => ?_
  split
  · exact refuses_ok _
  · exact refuses_refuse_with _ _
  · exact refuses_refuse_with _ _
  · next failure hpattern hvalue hfailure =>
    rintro other ⟨⟩
    obtain ⟨message, rfl | rfl | rfl⟩ := ofSource_fails hfailure
    · exact (hpattern message rfl).elim
    · exact (hvalue message rfl).elim
    · exact .tooLarge message

theorem refuses_readFind (value : Value) : Refuses field (readFind value field) := by
  unfold readFind
  split
  · exact refuses_ok _
  · exact refuses_ok _
  · split
    · exact refuses_ok _
    · exact refuses_refuse _
  · next table =>
    intro failure h
    cases hregex : readRegex table field with
    | error other =>
      rw [hregex] at h
      cases h
      exact refuses_readRegex _ _ _ hregex
    | ok find => rw [hregex] at h; cases h
  · exact refuses_refuse _

theorem refuses_readRule (table : Table) : Refuses field (readRule table field) := by
  refine refuses_bind (refuses_checkKeys _ _ _) fun _ => ?_
  refine refuses_bind (refuses_part (refuses_readFiles _ _)) fun files => ?_
  refine refuses_bind (refuses_part (refuses_readHeadCount _ _)) fun head => ?_
  refine refuses_bind (refuses_part (refuses_readText _ _)) fun label => ?_
  refine refuses_bind (refuses_part (refuses_readLevel _ _)) fun level => ?_
  exact refuses_bind (refuses_part (refuses_readFind _ _)) fun find => refuses_ok _

end Refuses

theorem refuses_readItem (index : Nat) (item : Value) :
    Refuses s!"rules[{index}]" (readItem index item) := by
  have hmessage : s!"rules[{index}] must be a table/object" =
      s!"rules[{index}]" ++ " must be a table/object" := by
    simp only [String.append_assoc]
    rfl
  have hrefuse : Refuses s!"rules[{index}]"
      (refuseConfig s!"rules[{index}] must be a table/object" : Except Failure Rule) := by
    rw [hmessage]
    exact refuses_refuse _
  cases item with
  | table table => exact refuses_readRule _ table
  | _ => exact hrefuse

theorem blames_readItem (index : Nat) (item : Value) :
    Blames s!"rules[{index}]" (readItem index item) :=
  (refuses_readItem index item).blames

/-- The first item that is not a rule is what the reader fails at, whatever stands behind it. -/
theorem readRules_fails {index : Nat} {items : List Value} {failure : Failure}
    (h : readRules index items = .error failure) :
    ∃ before item later, items = before ++ item :: later ∧
      (∀ earlier ∈ before, ∃ rule, IsItem earlier rule) ∧ (∀ rule, ¬ IsItem item rule) ∧
      readItem (index + before.length) item = .error failure ∧
      ∀ others, readRules index (before ++ item :: others) = .error failure := by
  induction items generalizing index with
  | nil => cases h
  | cons item items ih =>
    rw [readRules_cons] at h
    cases hitem : readItem index item with
    | error other =>
      rw [hitem] at h
      cases h
      refine ⟨[], item, items, rfl, List.forall_mem_nil _, fun rule hrule => ?_, hitem,
        fun others => ?_⟩
      · rw [readItem_iff.2 hrule] at hitem
        cases hitem
      · rw [List.nil_append, readRules_cons, hitem]
        rfl
    | ok rule =>
      rw [hitem] at h
      cases hrest : readRules (index + 1) items with
      | ok rules =>
        simp only [bind, Except.bind, hrest] at h
        cases h
      | error other =>
        simp only [bind, Except.bind, hrest] at h
        cases h
        obtain ⟨before, bad, later, rfl, hbefore, hbad, hfailure, hothers⟩ := ih hrest
        refine ⟨item :: before, bad, later, rfl, ?_, hbad, ?_, fun others => ?_⟩
        · exact List.forall_mem_cons.2 ⟨⟨rule, readItem_iff.1 hitem⟩, hbefore⟩
        · rw [List.length_cons, Nat.add_comm before.length, ← Nat.add_assoc]
          exact hfailure
        · rw [List.cons_append, readRules_cons, hitem]
          simp only [bind, Except.bind, hothers]

/-! ## Configurations -/

theorem readConfig_list {document : Table} {items : List Value}
    (hkeys : ∀ key ∈ document.keys, key ∈ ["rules"])
    (hrules : document.lookup "rules" = some (.list items)) (source : Option String) :
    readConfig document source = (readRules 0 items).map fun rules => ⟨rules, source⟩ := by
  have hchecked : checkKeys document ["rules"] "config" = .ok () := checkKeys_iff.2 hkeys
  have hget : document.get "rules" = .list items := by rw [Table.get, hrules]; rfl
  rw [readConfig, hchecked, hget]
  simp only [bind, Except.bind]
  cases readRules 0 items <;> rfl

theorem readConfig_iff {document : Table} {source : Option String} {config : Config} :
    readConfig document source = .ok config ↔
      config.source = source ∧ IsConfig document config.rules := by
  constructor
  · intro h
    obtain ⟨_, hchecked, h⟩ := except_bind_iff.1 h
    have hkeys := checkKeys_iff.1 hchecked
    split at h
    · next hget =>
      cases h
      rw [Table.get] at hget
      refine ⟨rfl, hkeys, ?_⟩
      cases hentry : document.lookup "rules" with
      | none => exact .absent
      | some value => rw [hentry] at hget; cases hget; exact .null
    · next items hget =>
      obtain ⟨rules, hrules, h⟩ := except_bind_iff.1 h
      cases h
      rw [Table.get] at hget
      refine ⟨rfl, hkeys, ?_⟩
      cases hentry : document.lookup "rules" with
      | none => rw [hentry] at hget; cases hget
      | some value => rw [hentry] at hget; cases hget; exact .list (readRules_iff.1 hrules)
    · cases h
  · obtain ⟨rules, source'⟩ := config
    rintro ⟨rfl, hkeys, hrules⟩
    have hchecked : checkKeys document ["rules"] "config" = .ok () := checkKeys_iff.2 hkeys
    generalize hentry : document.lookup "rules" = entry at hrules
    cases hrules with
    | absent =>
      rw [readConfig, hchecked, Table.get, hentry]
      rfl
    | null =>
      rw [readConfig, hchecked, Table.get, hentry]
      rfl
    | list hitems =>
      rw [readConfig_list hkeys hentry, readRules_iff.2 hitems]
      rfl

/-- A document is a configuration if and only if it follows the grammar, and then it has one rule
for each table. If one of its rules is at fault, the first such rule is the one that is reported,
by its number, and nothing behind it matters. -/
theorem readConfig_grammar (document : Table) (source : Option String) :
    ((∃ config, readConfig document source = .ok config) ↔ ∃ rules, IsConfig document rules) ∧
    (∀ config, readConfig document source = .ok config →
      config.source = source ∧ IsConfig document config.rules) ∧
    (∀ items failure, (∀ key ∈ document.keys, key ∈ ["rules"]) →
      document.lookup "rules" = some (.list items) →
      readConfig document source = .error failure →
      ∃ before item later, items = before ++ item :: later ∧
        (∀ earlier ∈ before, ∃ rule, IsItem earlier rule) ∧ (∀ rule, ¬ IsItem item rule) ∧
        (∀ message, failure = .config message →
          ∃ more, message = s!"rules[{before.length}]" ++ more) ∧
        ∀ others, readConfig [("rules", .list (before ++ item :: others))] source =
          .error failure) := by
  refine ⟨⟨?_, ?_⟩, fun config => readConfig_iff.1, ?_⟩
  · rintro ⟨config, h⟩
    exact ⟨config.rules, (readConfig_iff.1 h).2⟩
  · rintro ⟨rules, h⟩
    exact ⟨⟨rules, source⟩, readConfig_iff.2 ⟨rfl, h⟩⟩
  · intro items failure hkeys hrules h
    rw [readConfig_list hkeys hrules] at h
    cases hread : readRules 0 items with
    | ok rules => rw [hread] at h; cases h
    | error other =>
      rw [hread] at h
      cases h
      obtain ⟨before, item, later, rfl, hbefore, hitem, hfailure, hothers⟩ := readRules_fails hread
      refine ⟨before, item, later, rfl, hbefore, hitem, ?_, fun others => ?_⟩
      · rintro message rfl
        rw [Nat.zero_add] at hfailure
        exact blames_readItem _ _ message hfailure
      · rw [readConfig_list (by simp [Table.keys]) rfl, hothers]
        rfl

theorem readConfig_grammar_second_rule :
    let first := Value.table [("pattern", .text "TODO"), ("level", .text "error")]
    let second := Value.table [("pattern", .text "TODO"), ("level", .text "fatal")]
    ∃ message more,
      readConfig [("rules", .list [first, second])] none = .error (.config message) ∧
        message = "rules[1]" ++ more := by
  intro first second
  have hfirst : IsItem first ⟨"TODO", .error, .all, none, 10⟩ :=
    .table ⟨by decide, rfl, .error, .absent, .absent, .absent⟩
  have hkeys : checkKeys [("pattern", .text "TODO"), ("level", .text "fatal")] ruleKeys "rules[1]" =
      .ok () := checkKeys_iff.2 (by decide)
  have hfield : s!"rules[{1}]" = "rules[1]" := by decide
  have hsecond : readItem 1 second =
      .error (.config "rules[1].level must be one of: error, warning, info") := by
    simp only [readItem, second, hfield]
    rw [readRule, hkeys]
    rfl
  have hfails : readConfig [("rules", .list [first, second])] none =
      .error (.config "rules[1].level must be one of: error, warning, info") := by
    rw [readConfig_list (by decide) rfl, readRules_cons, readItem_iff.2 hfirst]
    simp only [bind, Except.bind, readRules_cons, Nat.zero_add, hsecond]
    rfl
  obtain ⟨before, item, later, hitems, -, hitem, hmessage, -⟩ :=
    (readConfig_grammar _ none).2.2 _ _ (by decide) rfl hfails
  cases before with
  | nil =>
    cases hitems
    exact (hitem _ hfirst).elim
  | cons one before =>
    cases before with
    | nil =>
      obtain ⟨more, hmore⟩ := hmessage _ rfl
      exact ⟨_, more, hfails, hfield ▸ hmore⟩
    | cons other before => cases before <;> cases hitems

/-- A document that is not a configuration is refused as such, or because of an expression that
repeats more often than can be counted. -/
theorem readConfig_fails {document : Table} {source : Option String} {failure : Failure}
    (h : readConfig document source = .error failure) :
    ∃ message, failure = .config message ∨ failure = .tooLarge message := by
  rcases bind_error h with h | ⟨_, -, h⟩
  · exact (refuses_checkKeys "config" document _ failure h).kind
  · split at h
    · cases h
    · rcases bind_error h with h | ⟨rules, -, h⟩
      · obtain ⟨before, item, later, -, -, -, hitem, -⟩ := readRules_fails h
        exact (refuses_readItem _ item failure hitem).kind
      · cases h
    · cases h
      exact ⟨_, .inl rfl⟩

end CommitRules
