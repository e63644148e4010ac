import CommitRules.Proofs.Documents
import CommitRules.Proofs.WholeFlags

/-!
# CommitRules.Proofs.Canonical

A configuration that has been read can be written as a document and read again, with nothing lost
and nothing changed. Of a regular expression the document gives the text and the flags in force for
all of it, wherever they come from.

* `isRule_toValue`: a rule that some table gives is given by the table it is written as.
* `readConfig_toValue`: so is a configuration.
-/

namespace CommitRules

open CommitRules.Regex

variable {entry : Option Value}

/-! ## Entries -/

theorem isFiles_toValue {files : FileScope} (h : IsFiles entry files) :
    IsFiles (some files.toValue) files := by
  cases h with
  | absent => exact .null
  | null => exact .null
  | one glob => exact .one glob
  | several hsome => exact .several hsome

theorem isHead_toValue {head : Nat} (h : IsHead entry head) : IsHead (some (.int head)) head := by
  cases h with
  | absent => exact .given (by decide)
  | given hpos => exact .given hpos

theorem isLevel_toValue (level : Level) : IsLevel (some (.text level.name)) level := by
  cases level with
  | error => exact .error
  | warning => exact .warning
  | info => exact .info

/-- The table of an expression gives the letters of all its flags, also of those that its own text
turns on. -/
theorem isRegex_toValue {table : Table} {pattern : RegexPattern} (h : IsRegex table pattern) :
    IsRegex [("regex", .text pattern.source), ("flags", .text pattern.flagLetters)] pattern := by
  obtain ⟨-, -, -, hread⟩ := h
  have hletters : pattern.flagLetters.toList = pattern.options.letters := String.toList_ofList
  have hflags : IsFlags (some (.text pattern.flagLetters)) pattern.flagLetters.toList := by
    refine .given ?_
    rw [hletters]
    exact letters_known _
  refine ⟨by simp [Table.keys], rfl, hflags, ?_⟩
  rw [hletters]
  exact readPattern_letters hread

theorem isFind_toValue {find : Option Find} (h : IsFind entry find) :
    IsFind (some ((find.map Find.toValue).getD .null)) find := by
  cases h with
  | absent => exact .null
  | null => exact .null
  | literal text => exact .literal text
  | anyOf options => exact .anyOf options
  | regex hpattern => exact .regex (isRegex_toValue hpattern)

/-! ## Rules -/

theorem isItem_toValue {item : Value} {rule : Rule} (h : IsItem item rule) :
    IsItem rule.toValue rule := by
  cases h with
  | table hrule =>
    refine .table ⟨by simp [Table.keys], rfl, ?_, ?_, ?_, ?_⟩
    · exact isLevel_toValue rule.level
    · exact isFiles_toValue hrule.files
    · exact isFind_toValue hrule.find
    · exact isHead_toValue hrule.head

theorem isItems_toValue {items : List Value} {rules : List Rule}
    (h : List.Forall₂ IsItem items rules) :
    List.Forall₂ IsItem (rules.map Rule.toValue) rules := by
  induction h with
  | nil => exact .nil
  | cons hitem _ ih => exact .cons (isItem_toValue hitem) ih

/-- A configuration that has been read is read again from the rules it is written as; what is
written is the same from then on. -/
theorem readConfig_toValue {document : Table} {source : Option String} {config : Config}
    (h : readConfig document source = .ok config) :
    ∃ entries, config.toValue = .table entries ∧
      readConfig [("rules", Table.get entries "rules")] source = .ok config ∧
      ∀ again, readConfig [("rules", Table.get entries "rules")] source = .ok again →
        again.toValue = config.toValue := by
  obtain ⟨hsource, -, hrules⟩ := readConfig_iff.1 h
  have hitems : List.Forall₂ IsItem (config.rules.map Rule.toValue) config.rules := by
    generalize document.lookup "rules" = entry at hrules
    generalize config.rules = rules at hrules ⊢
    cases hrules with
    | absent => exact .nil
    | null => exact .nil
    | list hitems => exact isItems_toValue hitems
  have hagain : readConfig [("rules", .list (config.rules.map Rule.toValue))] source = .ok config :=
    readConfig_iff.2 ⟨hsource, by simp [Table.keys], .list hitems⟩
  refine ⟨_, rfl, hagain, fun again hread => ?_⟩
  cases hagain.symm.trans hread
  rfl

theorem readConfig_toValue_inline_flag :
    let item := Value.table [("pattern", .text "TODO"), ("level", .text "error"),
      ("find", .table [("regex", .text "(?i)a")])]
    ∃ config, readConfig [("rules", .list [item])] none = .ok config ∧
      readConfig [("rules", .list (config.rules.map Rule.toValue))] none = .ok config := by
  intro item
  let pattern : RegexPattern :=
    ⟨"(?i)a", Options.none.withLetters ['i'], .one (.literal .full false 97)⟩
  let rule : Rule := ⟨"TODO", .error, .all, some (.regex pattern), 10⟩
  have hpattern : readPattern (Options.none.withLetters []) "(?i)a".toList =
      .ok (.one (.literal .full false 97), Options.none.withLetters ['i']) := rfl
  have hregex : IsRegex [("regex", .text "(?i)a")] pattern := ⟨by decide, rfl, .absent, hpattern⟩
  have hitem : IsItem item rule :=
    .table ⟨by decide, rfl, .error, .absent, .regex hregex, .absent⟩
  have hread : readConfig [("rules", .list [item])] none = .ok ⟨[rule], none⟩ :=
    readConfig_iff.2 ⟨rfl, by simp [Table.keys], .list (.cons hitem .nil)⟩
  obtain ⟨entries, hvalue, hagain, -⟩ := readConfig_toValue hread
  cases hvalue
  exact ⟨_, hread, hagain⟩

end CommitRules
