import CommitRules.Proofs.Grouping
import CommitRules.Proofs.Paths
import Mathlib.Data.List.Infix

/-!
# CommitRules.Proofs.ReportText

Reading a report again. A report to be read is told by its lines: what is underlined is the path of a
file, a line with a sign in front is about a violation, and each of the last two lines counts
something. So it can be compared with the report as JSON.

* `splitAt_text`: the lines of a report, if nothing shown in it goes over several lines.
* `entryLabel?_violationLine`: a label is found again, however long it is and whatever is in it.
* `entriesIn_groups`: the violations that are read are those of the groups.
* `reports_tell_same`: both reports tell the same.
-/

namespace CommitRules

open CommitRules.Files
open CommitRules.Text

/-! ## Reading -/

def isMarked (sign : String) (line : List Char) : Bool := sign.toList.isPrefixOf line

/-- The path in the header of a file: what is underlined. -/
def headerPath? (line : List Char) : Option String :=
  let front := styleCommand Style.underline.code
  if isMarked front line then
    some (String.ofList ((line.drop front.length).take
      (line.length - front.length - (styleCommand 0).length)))
  else none

/-- What stands behind the sign in a line about a violation. -/
def labelColumns (label : String) : String := padded 40 label ++ " " ++ styled [.dim] label

/-- The label in a line about a violation. It is the one that the line could have been written from,
because it may hold blanks and commands to a terminal itself. -/
def entryLabel? (line : List Char) : Option String :=
  if isMarked (levelSign .error) line || isMarked (levelSign .warning) line then
    let columns := line.drop ((levelSign .error).length + 2)
    (columns.inits.map String.ofList).find? fun label => (labelColumns label).toList == columns
  else none

/-- The path and the label of every violation in a report, in order. `path` is that of the latest
header. -/
def entriesIn (path : String) : List (List Char) → List (String × String)
  | [] => []
  | line :: lines =>
    match headerPath? line, entryLabel? line with
    | some path, _ => entriesIn path lines
    | none, some label => (path, label) :: entriesIn path lines
    | none, none => entriesIn path lines

def statedCount (line : List Char) : Nat :=
  Nat.ofDigitChars 10 ((line.drop (styleCommand Style.red.code).length).takeWhile Char.isDigit) 0

/-! ## Lines -/

section Lines

variable {label text : String} {style : Style}

theorem toList_styled (style : Style) (text : String) :
    (styled [style] text).toList =
      (styleCommand style.code).toList ++ (text.toList ++ (styleCommand 0).toList) := by
  simp [styled, String.join_cons]

theorem feed_not_mem_styled (style : Style) (h : '\n' ∉ text.toList) :
    '\n' ∉ (styled [style] text).toList := by
  have hfront : '\n' ∉ (styleCommand style.code).toList := by cases style <;> decide +kernel
  have hback : '\n' ∉ (styleCommand 0).toList := by decide +kernel
  rw [toList_styled]
  simp only [List.mem_append, not_or]
  exact ⟨hfront, h, hback⟩

theorem toList_counted (count : Nat) (noun : String) :
    (counted count noun).toList =
      Nat.toDigits 10 count ++ ' ' :: (noun.toList ++ (if count = 1 then "" else "s").toList) := by
  have hblank : (toString " ").toList = [' '] := rfl
  simp only [counted, String.toList_append, Nat.toString_eq_repr, Nat.toList_repr, hblank]
  simp

theorem isDigit_of_mem {count : Nat} {c : Char} (h : c ∈ Nat.toDigits 10 count) :
    c.isDigit = true := Nat.isDigit_of_mem_toDigits (by decide) (by decide) h

theorem feed_not_mem_counted {count : Nat} {noun : String} (h : '\n' ∉ noun.toList) :
    '\n' ∉ (counted count noun).toList := by
  have hdigits : '\n' ∉ Nat.toDigits 10 count := fun hmem =>
    absurd (isDigit_of_mem hmem) (by decide)
  have hplural : '\n' ∉ (if count = 1 then "" else "s").toList := by split <;> decide
  rw [toList_counted]
  simp [hdigits, h, hplural]

theorem statedCount_styled (count : Nat) (noun : String)
    (hstyle : (styleCommand style.code).length = (styleCommand Style.red.code).length) :
    statedCount (styled [style] (counted count noun)).toList = count := by
  have hdrop : ((styled [style] (counted count noun)).toList).drop
      (styleCommand Style.red.code).length =
        (counted count noun).toList ++ (styleCommand 0).toList := by
    rw [toList_styled, ← hstyle, ← String.length_toList, List.drop_left]
  have hdigits : ((counted count noun).toList ++ (styleCommand 0).toList).takeWhile Char.isDigit =
      Nat.toDigits 10 count := by
    rw [toList_counted, List.append_assoc, List.takeWhile_append_of_pos fun _ => isDigit_of_mem]
    simp
  rw [statedCount, hdrop, hdigits]
  exact Nat.ofDigitChars_ten_toDigits

theorem isMarked_append {sign front : String} {rest : List Char}
    (h : (sign.toList.isPrefixOf front.toList || front.toList.isPrefixOf sign.toList) = false) :
    isMarked sign (front.toList ++ rest) = false := by
  obtain ⟨hsign, hfront⟩ := Bool.or_eq_false_iff.1 h
  rw [isMarked, Bool.eq_false_iff]
  intro hmarked
  rcases List.prefix_or_prefix_of_prefix (List.isPrefixOf_iff_prefix.1 hmarked)
      (List.prefix_append front.toList rest) with hprefix | hprefix
  · simp [List.isPrefixOf_iff_prefix.2 hprefix] at hsign
  · simp [List.isPrefixOf_iff_prefix.2 hprefix] at hfront

/-- A sign of the same colour is told from a number by its shape. -/
theorem isMarked_shape {shape : Char} (hshape : shape.isDigit = false) (style : Style)
    (count : Nat) (noun : String) :
    isMarked (styled [style] (String.singleton shape))
      (styled [style] (counted count noun)).toList = false := by
  obtain ⟨digit, digits, hdigits⟩ := List.exists_cons_of_ne_nil
    (Nat.toDigits_ne_nil : Nat.toDigits 10 count ≠ [])
  have hdifferent : shape ≠ digit := by
    rintro rfl
    have hmem : shape ∈ Nat.toDigits 10 count := by simp [hdigits]
    have hdigit : shape.isDigit = true := isDigit_of_mem hmem
    simp [hdigit] at hshape
  rw [isMarked, Bool.eq_false_iff, ne_eq, List.isPrefixOf_iff_prefix, toList_styled, toList_styled,
    List.prefix_append_right_inj, toList_counted, hdigits]
  simp [hdifferent]

theorem isMarked_counted (level : Level) (hstyle : style = .red ∨ style = .yellow) (count : Nat)
    (noun : String) :
    isMarked (levelSign level) (styled [style] (counted count noun)).toList = false := by
  have hcross : "✕" = String.singleton '✕' := by decide +kernel
  have htriangle : "△" = String.singleton '△' := by decide +kernel
  -- either the shapes tell them apart or the colours in front of them do
  rcases hstyle with rfl | rfl
  · cases level with
    | error =>
      rw [levelSign, hcross]
      exact isMarked_shape (by decide) .red count noun
    | warning | info =>
      rw [toList_styled]
      exact isMarked_append (by decide +kernel)
  · cases level with
    | error =>
      rw [toList_styled]
      exact isMarked_append (by decide +kernel)
    | warning | info =>
      simp only [levelSign, htriangle]
      exact isMarked_shape (by decide) .yellow count noun

/-! ## Labels -/

theorem length_labelColumns (label : String) :
    (labelColumns label).length = max 40 label.length + label.length + 9 := by
  have hdim : (styled [.dim] label).length = label.length + 8 := by
    rw [← String.length_toList, toList_styled, List.length_append, List.length_append,
      ← String.length_toList (s := label)]
    have hfront : (styleCommand Style.dim.code).toList.length = 4 := by decide +kernel
    have hback : (styleCommand 0).toList.length = 4 := by decide +kernel
    omega
  simp only [labelColumns, padded, String.length_append, String.length_ofList,
    List.length_replicate, hdim]
  have hblank : " ".length = 1 := rfl
  omega

theorem labelColumns_inj {other : String} (h : labelColumns label = labelColumns other) :
    label = other := by
  have hlength : label.length = other.length := by
    have hsame := congrArg String.length h
    rw [length_labelColumns, length_labelColumns] at hsame
    omega
  simp only [labelColumns, padded, String.append_assoc] at h
  have hlist := congrArg String.toList h
  simp only [String.toList_append] at hlist
  exact String.toList_inj.1 (List.append_inj_left hlist hlength)

theorem violationLine_eq (violation : Violation) :
    (violationLine violation).toList =
      (levelSign violation.level).toList ++
        (' ' :: ' ' :: (labelColumns violation.rule.label).toList) := by
  simp [violationLine, labelColumns]

theorem isMarked_self (sign : String) (rest : List Char) :
    isMarked sign (sign.toList ++ rest) = true :=
  List.isPrefixOf_iff_prefix.2 (List.prefix_append ..)

theorem isMarked_error (violation : Violation) :
    isMarked (levelSign .error) (violationLine violation).toList =
      decide (violation.level = .error) := by
  rw [violationLine_eq]
  cases violation.level with
  | error => exact isMarked_self ..
  | warning | info => exact isMarked_append (by decide +kernel)

theorem isMarked_warning (violation : Violation) :
    isMarked (levelSign .warning) (violationLine violation).toList =
      decide (violation.level ≠ .error) := by
  rw [violationLine_eq]
  cases violation.level with
  | error => exact isMarked_append (by decide +kernel)
  | warning | info => exact isMarked_self ..

theorem entryLabel?_violationLine (violation : Violation) :
    entryLabel? (violationLine violation).toList = some violation.rule.label := by
  have hmarked : (isMarked (levelSign .error) (violationLine violation).toList ||
      isMarked (levelSign .warning) (violationLine violation).toList) = true := by
    rw [isMarked_error, isMarked_warning]
    cases violation.level <;> rfl
  have hdrop : (violationLine violation).toList.drop ((levelSign .error).length + 2) =
      (labelColumns violation.rule.label).toList := by
    have hsign : (levelSign .error).length = (levelSign violation.level).toList.length := by
      cases violation.level <;> decide +kernel
    rw [violationLine_eq, hsign, ← List.drop_drop, List.drop_left]
    rfl
  rw [entryLabel?, if_pos hmarked, hdrop]
  -- the label is one of the beginnings, and from no other one the line could have been written
  have hmem : violation.rule.label ∈
      (labelColumns violation.rule.label).toList.inits.map String.ofList := by
    refine List.mem_map.2 ⟨violation.rule.label.toList, (List.mem_inits _ _).2 ?_, String.ofList_toList⟩
    simp [labelColumns, padded]
  cases hfind : ((labelColumns violation.rule.label).toList.inits.map String.ofList).find? fun label =>
      (labelColumns label).toList == (labelColumns violation.rule.label).toList with
  | none => exact absurd (beq_self_eq_true _) (List.find?_eq_none.1 hfind _ hmem)
  | some label =>
    have hsame := List.find?_some hfind
    rw [labelColumns_inj (String.toList_inj.1 (eq_of_beq hsame))]

/-! ## Headers -/

theorem headerPath?_header (path : String) :
    headerPath? (styled [.underline] path).toList = some path := by
  rw [headerPath?, toList_styled, if_pos (isMarked_self ..)]
  have hfront := String.length_toList (s := styleCommand Style.underline.code)
  have hback := String.length_toList (s := styleCommand 0)
  rw [← hfront, List.drop_left, List.length_append, List.length_append, ← hback,
    Nat.add_sub_cancel_left, Nat.add_sub_cancel, List.take_left, String.ofList_toList]

theorem headerPath?_eq_none {line : List Char}
    (h : isMarked (styleCommand Style.underline.code) line = false) : headerPath? line = none := by
  simp [headerPath?, h]

theorem headerPath?_violationLine (violation : Violation) :
    headerPath? (violationLine violation).toList = none := by
  apply headerPath?_eq_none
  rw [violationLine_eq]
  cases violation.level <;> exact isMarked_append (by decide +kernel)

theorem isMarked_header (level : Level) (path : String) :
    isMarked (levelSign level) (styled [.underline] path).toList = false := by
  rw [toList_styled]
  cases level <;> exact isMarked_append (by decide +kernel)

theorem headerPath?_counted (hstyle : style = .red ∨ style = .yellow) (count : Nat)
    (noun : String) : headerPath? (styled [style] (counted count noun)).toList = none := by
  apply headerPath?_eq_none
  rw [toList_styled]
  rcases hstyle with rfl | rfl <;> exact isMarked_append (by decide +kernel)

theorem entryLabel?_counted (hstyle : style = .red ∨ style = .yellow) (count : Nat)
    (noun : String) : entryLabel? (styled [style] (counted count noun)).toList = none := by
  simp [entryLabel?, isMarked_counted _ hstyle]

end Lines

/-! ## All lines -/

/-- The lines at the end of a report. -/
def countLines (summary : Summary) : List String :=
  [styled [.red] (counted summary.errors "error"),
    styled [.yellow] (counted summary.warnings "warning")]

/-- Whether nothing that a report shows of a violation goes over several lines. -/
def Violation.IsOneLine (root : Option Path) (violation : Violation) : Prop :=
  '\n' ∉ (Path.shownFrom root violation.file).toList ∧ '\n' ∉ violation.rule.label.toList

instance (root : Option Path) (violation : Violation) : Decidable (violation.IsOneLine root) :=
  inferInstanceAs (Decidable (_ ∧ _))

section Report

variable {violations : List Violation} {root : Option Path}

theorem feed_not_mem_violationLine {violation : Violation} (h : violation.IsOneLine root) :
    '\n' ∉ (violationLine violation).toList := by
  have hsign : '\n' ∉ (levelSign violation.level).toList := by
    cases violation.level <;> decide +kernel
  have hdim := feed_not_mem_styled .dim h.2
  simp [violationLine_eq, labelColumns, padded, hsign, h.2, hdim]

theorem feed_not_mem_countLines {summary : Summary} {line : String}
    (h : line ∈ countLines summary) : '\n' ∉ line.toList := by
  simp only [countLines, List.mem_cons, List.not_mem_nil, or_false] at h
  rcases h with rfl | rfl <;>
    exact feed_not_mem_styled _ (feed_not_mem_counted (by decide))

theorem feed_not_mem_groupLines {group : FileGroup} {line : String}
    (hgroup : group ∈ groupByFile violations)
    (h : ∀ violation ∈ violations, violation.IsOneLine root) (hline : line ∈ groupLines root group) :
    '\n' ∉ line.toList := by
  rw [groupByFile_eq] at hgroup
  obtain ⟨file, hfile, rfl⟩ := List.mem_map.1 hgroup
  simp only [groupLines, groupOf, List.mem_append, List.mem_cons, List.mem_map, List.mem_filter,
    List.not_mem_nil, or_false] at hline
  rcases hline with (rfl | ⟨violation, ⟨hviolation, -⟩, rfl⟩) | rfl
  · obtain ⟨violation, hviolation, rfl⟩ := mem_filesOf.1 hfile
    exact feed_not_mem_styled _ (h violation hviolation).1
  · exact feed_not_mem_violationLine (h violation hviolation)
  · decide

theorem groupByFile_eq_nil : groupByFile violations = [] ↔ violations = [] := by
  constructor
  · intro h
    have hperm := groupByFile_perm violations
    rw [h] at hperm
    exact List.nil_perm.1 hperm
  · rintro rfl
    rfl

theorem file_of_mem_group {group : FileGroup} {violation : Violation}
    (hgroup : group ∈ groupByFile violations) (h : violation ∈ group.violations) :
    violation.file = group.file := by
  rw [groupByFile_eq] at hgroup
  obtain ⟨file, -, rfl⟩ := List.mem_map.1 hgroup
  exact of_decide_eq_true (List.mem_filter.1 h).2

/-- Warnings and mere information have one sign. -/
theorem countP_ne_error (violations : List Violation) :
    violations.countP (fun violation => decide (violation.level ≠ .error)) =
      countLevel .warning violations + countLevel .info violations := by
  have htotal := countLevel_total violations
  have hsplit := List.length_eq_countP_add_countP
    (fun violation : Violation => decide (violation.level = .error)) (l := violations)
  simp only [decide_eq_true_eq] at hsplit
  rw [countLevel] at htotal
  simp only [ne_eq]
  omega

theorem total_summarize (violations : List Violation) :
    (summarize violations).total = violations.length := countLevel_total violations

/-- The lines of a report, if there is something to report. -/
def reportLines (root : Option Path) (violations : List Violation) : List String :=
  (groupByFile violations).flatMap (groupLines root) ++ countLines (summarize violations)

theorem toList_text (hsome : violations ≠ []) :
    ((summarize violations).text root).toList =
      ['\n'].intercalate ((reportLines root violations).map String.toList) := by
  have htotal : ¬ (summarize violations).total = 0 := by
    rw [total_summarize]
    exact fun h => hsome (List.length_eq_zero_iff.1 h)
  rw [Summary.text, if_neg htotal, String.toList_intercalate]
  rfl

theorem splitAt_text (hsome : violations ≠ [])
    (h : ∀ violation ∈ violations, violation.IsOneLine root) :
    splitAt '\n' ((summarize violations).text root).toList =
      (reportLines root violations).map String.toList := by
  have hlines : ∀ line ∈ (reportLines root violations).map String.toList, '\n' ∉ line := by
    intro chars hchars
    obtain ⟨line, hline, rfl⟩ := List.mem_map.1 hchars
    rcases List.mem_append.1 hline with hgroup | hcount
    · obtain ⟨group, hgroup, hline⟩ := List.mem_flatMap.1 hgroup
      exact feed_not_mem_groupLines hgroup h hline
    · exact feed_not_mem_countLines hcount
  have hne : (reportLines root violations).map String.toList ≠ [] := by
    simp [reportLines, countLines]
  obtain ⟨first, rest, heq⟩ := List.exists_cons_of_ne_nil hne
  rw [toList_text hsome, heq]
  exact splitAt_intercalate (heq ▸ hlines)

theorem isMarked_intercalate (sign : String) (rest : List Char) (lines : List (List Char)) :
    isMarked sign (['\n'].intercalate ((sign.toList ++ rest) :: lines)) = true := by
  cases lines with
  | nil =>
    rw [List.intercalate_singleton]
    exact isMarked_self ..
  | cons line lines =>
    rw [List.intercalate_cons_cons, List.append_assoc, List.append_assoc]
    exact isMarked_self ..

/-- A report of violations begins with a header, and the notice that all is well does not. -/
theorem text_eq_successNotice :
    (summarize violations).text root = successNotice ↔ violations = [] := by
  refine ⟨fun htext => ?_, ?_⟩
  · by_contra hsome
    -- the first line is the header of the first file
    have hmarked : isMarked (styleCommand Style.underline.code)
        ((summarize violations).text root).toList = true := by
      obtain ⟨group, groups, hgroups⟩ :=
        List.exists_cons_of_ne_nil (mt groupByFile_eq_nil.1 hsome)
      rw [toList_text hsome, reportLines, hgroups]
      simp only [List.flatMap_cons, groupLines, List.cons_append, List.map_cons]
      rw [toList_styled]
      exact isMarked_intercalate ..
    have hnotice : isMarked (styleCommand Style.underline.code) successNotice.toList = false := by
      decide +kernel
    simp [htext, hnotice] at hmarked
  · rintro rfl
    rfl

/-! ## Reading all lines -/

/-- The violations of a group as they are shown. -/
def shownEntries (root : Option Path) (group : FileGroup) : List (String × String) :=
  group.violations.map fun violation => (Path.shownFrom root group.file, violation.rule.label)

theorem entriesIn_violations (path : String) (violations : List Violation)
    (rest : List (List Char)) :
    entriesIn path ((violations.map violationLine).map String.toList ++ rest) =
      violations.map (fun violation => (path, violation.rule.label)) ++ entriesIn path rest := by
  induction violations with
  | nil => rfl
  | cons violation violations ih =>
    simp only [List.map_cons, List.cons_append]
    rw [entriesIn, headerPath?_violationLine, entryLabel?_violationLine]
    simp only
    rw [ih]

theorem entriesIn_group (path : String) (group : FileGroup) (rest : List (List Char)) :
    entriesIn path ((groupLines root group).map String.toList ++ rest) =
      shownEntries root group ++ entriesIn (Path.shownFrom root group.file) rest := by
  have hblank : ∀ path, entriesIn path ("".toList :: rest) = entriesIn path rest := fun _ => rfl
  simp only [groupLines, List.map_append, List.map_cons, List.map_nil, List.cons_append,
    List.append_assoc, List.nil_append]
  rw [entriesIn, headerPath?_header]
  simp only
  rw [entriesIn_violations, hblank]
  rfl

/-- What is read from the lines of groups does not depend on the header before them, so neither must
what is read behind them. -/
theorem entriesIn_groups (path : String) (groups : List FileGroup) {rest : List (List Char)}
    (hrest : ∀ path, entriesIn path rest = []) :
    entriesIn path ((groups.flatMap (groupLines root)).map String.toList ++ rest) =
      groups.flatMap (shownEntries root) := by
  induction groups generalizing path with
  | nil => exact hrest path
  | cons group groups ih =>
    rw [List.flatMap_cons, List.flatMap_cons, List.map_append, List.append_assoc, entriesIn_group,
      ih]

theorem entriesIn_countLines (path : String) (summary : Summary) :
    entriesIn path ((countLines summary).map String.toList) = [] := by
  simp [countLines, entriesIn, headerPath?_counted, entryLabel?_counted]

theorem countP_reportLines (level : Level) {isCounted : Violation → Bool}
    (h : ∀ violation, isMarked (levelSign level) (violationLine violation).toList =
      isCounted violation) :
    ((reportLines root violations).map String.toList).countP (isMarked (levelSign level)) =
      violations.countP isCounted := by
  -- neither headers nor blank lines nor the lines at the end have a sign
  have hblank : isMarked (levelSign level) "".toList = false := by
    cases level <;> decide +kernel
  have hgroup : ∀ group : FileGroup,
      (groupLines root group).countP (fun line => isMarked (levelSign level) line.toList) =
        group.violations.countP isCounted := by
    intro group
    simp only [groupLines, List.countP_append, List.countP_cons, List.countP_nil, List.countP_map,
      isMarked_header, hblank, Function.comp_def, h]
    simp
  have hcounts : (countLines (summarize violations)).countP
      (fun line => isMarked (levelSign level) line.toList) = 0 := by
    simp [countLines, isMarked_counted]
  rw [← (groupByFile_perm violations).countP_eq, List.countP_map, reportLines, List.countP_append]
  simp only [Function.comp_def, hcounts, List.countP_flatMap, hgroup]
  rfl

end Report

/-- What the lines of a report say if it tells the same as the report as JSON. -/
structure TellsSame (violations : List Violation) (context : ReportContext)
    (lines : List (List Char)) : Prop where
  /-- For each file, in the order in which the files come up first, a header, a line for each of its
  violations as they came, and a blank line; behind all of them two lines that count. -/
  layout : lines =
    ((violations.map (·.file)).eraseDups.flatMap (fun file =>
      styled [.underline] (Path.shownFrom context.root file) ::
        (violations.filter fun violation => violation.file = file).map violationLine ++ [""]) ++
      [styled [.red] (counted (summarize violations).errors "error"),
        styled [.yellow] (counted (summarize violations).warnings "warning")]).map String.toList
  entries :
    (entriesIn "" lines).map (fun entry => (Value.text entry.1, Value.text entry.2)) =
      (((summarize violations).toValue context).under "violations").items.map fun entry =>
        (entry.under "file", entry.under "rule")
  counts : ∃ errors warnings infos : Nat,
    let numbers := ((summarize violations).toValue context).under "summary"
    numbers.under "errors" = .int errors ∧ numbers.under "warnings" = .int warnings ∧
    numbers.under "info" = .int infos ∧
    lines.countP (isMarked (levelSign .error)) = errors ∧
    lines.countP (isMarked (levelSign .warning)) = warnings + infos ∧
    (lines.drop (lines.length - 2)).map statedCount = [errors, warnings]

/-- Both reports tell the same. The one to be read is the notice that all is well if and only if
the one as JSON lists no violation. Else its lines, if nothing in them goes over several, show
the same violations in the same order, and they count what there is of each level. -/
theorem reports_tell_same (violations : List Violation) (context : ReportContext) :
    let summary := summarize violations
    let entries := ((summary.toValue context).under "violations").items
    (summary.text context.root = successNotice ↔ entries = []) ∧
    (entries ≠ [] → (∀ violation ∈ violations, violation.IsOneLine context.root) →
      TellsSame violations context (splitAt '\n' (summary.text context.root).toList)) := by
  intro summary entries
  have hentries : entries =
      ((groupByFile violations).flatMap (·.violations)).map (violationValue context.root) := rfl
  have hnil : entries = [] ↔ violations = [] := by
    rw [hentries, List.map_eq_nil_iff]
    exact ⟨fun h => List.nil_perm.1 (h ▸ groupByFile_perm violations), fun h => by subst h; rfl⟩
  refine ⟨text_eq_successNotice.trans hnil.symm, fun hsome honeLine => ?_⟩
  have hlines := splitAt_text (mt hnil.2 hsome) honeLine
  rw [hlines]
  constructor
  case layout =>
    rw [reportLines, groupByFile_eq, List.flatMap_map]
    rfl
  case entries =>
    rw [reportLines, List.map_append, entriesIn_groups _ _ (entriesIn_countLines · _)]
    change _ = entries.map _
    rw [hentries, List.map_map, List.map_flatMap, List.map_flatMap, List.flatMap_def,
      List.flatMap_def]
    refine congrArg List.flatten (List.map_congr_left fun group hgroup => ?_)
    rw [shownEntries, List.map_map]
    refine List.map_congr_left fun violation hviolation => ?_
    rw [Function.comp_apply, ← file_of_mem_group hgroup hviolation]
    rfl
  case counts =>
    refine ⟨summary.errors, summary.warnings, summary.infos, rfl, rfl, rfl,
      countP_reportLines .error isMarked_error, ?_, ?_⟩
    · rw [countP_reportLines .warning isMarked_warning, countP_ne_error]
      rfl
    · have hlast : ((reportLines context.root violations).map String.toList).drop
          (((reportLines context.root violations).map String.toList).length - 2) =
            (countLines summary).map String.toList := by
        rw [List.length_map, ← List.map_drop, reportLines, List.length_append]
        exact congrArg _ List.drop_left
      rw [hlast, countLines]
      simp only [List.map_cons, List.map_nil]
      rw [statedCount_styled _ _ rfl, statedCount_styled _ _ (by decide +kernel)]

/-- Three violations of two files, one of which lies outside the root directory. One label is too
long for its column, and one holds blanks and a command to a terminal. -/
def threeViolations : List Violation :=
  let violation (file label : String) (level : Level) : Violation :=
    ⟨file, ⟨label, level, .all, none, defaultHead⟩, level⟩
  [violation "/repo/src/b.ts" "no console.log in the code that is shipped" .error,
    violation "/tmp/a.ts" ("no  " ++ styled [.red] "✕" ++ " ") .info,
    violation "/repo/src/b.ts" "todo" .warning]

theorem reports_tell_same_three :
    let context : ReportContext :=
      ⟨[], [], "c", none, ⟨2024, 1, 1, 0, 0, 0⟩, some ⟨.root, ["repo"]⟩⟩
    let text := (summarize threeViolations).text context.root
    (((summarize threeViolations).toValue context).under "violations").items ≠ [] ∧
    (∀ violation ∈ threeViolations, violation.IsOneLine context.root) ∧
    text ≠ successNotice ∧
    TellsSame threeViolations context (splitAt '\n' text.toList) := by
  intro context text
  have hsome : (((summarize threeViolations).toValue context).under "violations").items ≠ [] :=
    List.cons_ne_nil _ _
  have honeLine : ∀ violation ∈ threeViolations, violation.IsOneLine context.root := by
    decide +kernel
  have hsame := reports_tell_same threeViolations context
  exact ⟨hsome, honeLine, mt hsame.1.1 hsome, hsame.2 hsome honeLine⟩

end CommitRules
