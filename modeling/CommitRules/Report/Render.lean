import CommitRules.Files.Path
import CommitRules.Json
import CommitRules.Report.Summary
import CommitRules.Text.Terminal

/-!
# CommitRules.Report.Render

Reports to be read, with colours, and as JSON. Both show a file by the way to it from a root
directory, if it lies below that.
-/

namespace CommitRules

open CommitRules.Files
open CommitRules.Text

/-! ## Text -/

/-- A text filled up with blanks. -/
def padded (width : Nat) (text : String) : String :=
  text ++ String.ofList (List.replicate (width - text.length) ' ')

/-- A number of things. -/
def counted (count : Nat) (noun : String) : String :=
  s!"{count} " ++ noun ++ if count = 1 then "" else "s"

/-- The sign of a violation: errors have one of their own. -/
def levelSign : Level → String
  | .error => styled [.red] "✕"
  | _ => styled [.yellow] "△"

def violationLine (violation : Violation) : String :=
  levelSign violation.level ++ "  " ++ padded 40 violation.rule.label ++ " " ++
    styled [.dim] violation.rule.label

def groupLines (root : Option Path) (group : FileGroup) : List String :=
  styled [.underline] (Path.shownFrom root group.file) ::
    group.violations.map violationLine ++ [""]

/-- The notice that all is well. -/
def successNotice : String := styled [.green, .bold] "No violations found!"

/-- A report to be read. -/
def Summary.text (summary : Summary) (root : Option Path) : String :=
  if summary.total = 0 then successNotice
  else
    "\n".intercalate (summary.groups.flatMap (groupLines root) ++
      [styled [.red] (counted summary.errors "error"),
       styled [.yellow] (counted summary.warnings "warning")])

/-! ## JSON -/

/-- A moment, to the second, in universal time. -/
structure Moment where
  year : Nat
  month : Nat
  day : Nat
  hour : Nat
  minute : Nat
  second : Nat
  deriving DecidableEq, Repr

/-- A number with leading zeros. -/
def zeroPadded (width number : Nat) : String :=
  let digits := toString number
  String.ofList (List.replicate (width - digits.length) '0') ++ digits

def Moment.text (moment : Moment) : String :=
  zeroPadded 4 moment.year ++ "-" ++ zeroPadded 2 moment.month ++ "-" ++
    zeroPadded 2 moment.day ++ "T" ++ zeroPadded 2 moment.hour ++ ":" ++
    zeroPadded 2 moment.minute ++ ":" ++ zeroPadded 2 moment.second ++ "Z"

def version : String := "0.1.0"

def violationValue (root : Option Path) (violation : Violation) : Value :=
  .table [
    ("file", .text (Path.shownFrom root violation.file)),
    ("rule", .text violation.rule.label),
    ("level", .text violation.level.name)]

/-- What a report as JSON tells besides the violations. -/
structure ReportContext where
  rules : List String
  matched : List String
  commit : String
  source : Option String
  now : Moment
  root : Option Path

def Summary.toValue (summary : Summary) (context : ReportContext) : Value :=
  .table [
    ("violations",
      .list ((summary.groups.flatMap (·.violations)).map (violationValue context.root))),
    ("summary", .table [
      ("errors", .int summary.errors),
      ("warnings", .int summary.warnings),
      ("info", .int summary.infos),
      ("has_errors", .bool summary.hasErrors)]),
    ("rules", .list (context.rules.map .text)),
    ("matched_files",
      .list (context.matched.map fun file => .text (Path.shownFrom context.root file))),
    ("meta", .table [
      ("generated_at", .text context.now.text),
      ("commit", .text context.commit),
      ("config_source", .ofText? context.source),
      ("version", .text version)])]

def Summary.json (summary : Summary) (context : ReportContext) : String :=
  Json.write (summary.toValue context)

end CommitRules
