import CommitRules.Text.Quoted

/-!
# CommitRules.Config.Template

The configuration to start from.
-/

namespace CommitRules

open CommitRules.Text

/-- A setting of the template: a key and a text in quotation marks. -/
def textSetting (key value : String) : String :=
  key ++ " = " ++ String.singleton quotationMark ++ value ++ String.singleton quotationMark

/-- Texts in quotation marks, in brackets. -/
def textList (values : List String) : String :=
  "[" ++ ", ".intercalate (values.map fun value =>
    String.singleton quotationMark ++ value ++ String.singleton quotationMark) ++ "]"

def templateLines : List String :=
  ["# scanva rules are checked in order against the files of a commit.",
   "",
   "[[rules]]",
   textSetting "pattern" "console.log left in source",
   "files = " ++ textList ["src/**/*.\x7bts,js\x7d", "!**/*.test.\x7bts,js\x7d"],
   textSetting "find" "console.log",
   textSetting "level" "error",
   "",
   "[[rules]]",
   textSetting "pattern" "TODO",
   textSetting "files" "**/*.py",
   "find = " ++ textList ["TODO", "FIXME"],
   textSetting "level" "warning",
   "head = 50",
   "",
   "[[rules]]",
   textSetting "pattern" "debugger statement",
   "find = \x7b " ++ textSetting "regex" "\\\\bdebugger\\\\b" ++ ", " ++ textSetting "flags" "i" ++
     " \x7d",
   textSetting "level" "error",
   ""]

/-- The configuration to start from. -/
def configTemplate : String := "\n".intercalate templateLines

end CommitRules
