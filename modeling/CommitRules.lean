import CommitRules.Check.Diff
import CommitRules.Check.Evaluate
import CommitRules.Check.Git
import CommitRules.Check.Run
import CommitRules.Check.Session
import CommitRules.Command.Execute
import CommitRules.Command.Options
import CommitRules.Command.Request
import CommitRules.Command.Similar
import CommitRules.Config.Load
import CommitRules.Config.Read
import CommitRules.Config.Template
import CommitRules.Failure
import CommitRules.Files.Head
import CommitRules.Files.Path
import CommitRules.Files.Select
import CommitRules.Files.Tree
import CommitRules.Find
import CommitRules.Glob.Braces
import CommitRules.Glob.Compile
import CommitRules.Glob.Match
import CommitRules.Glob.Piece
import CommitRules.Json
import CommitRules.Main
import CommitRules.Proofs.BraceGroups
import CommitRules.Proofs.Canonical
import CommitRules.Proofs.Differences
import CommitRules.Proofs.Documents
import CommitRules.Proofs.Encoding
import CommitRules.Proofs.Evaluation
import CommitRules.Proofs.Expansion
import CommitRules.Proofs.Failing
import CommitRules.Proofs.FaultPlaces
import CommitRules.Proofs.FileChanges
import CommitRules.Proofs.Git
import CommitRules.Proofs.GitAnswers
import CommitRules.Proofs.GivenPaths
import CommitRules.Proofs.GlobBrackets
import CommitRules.Proofs.GlobClasses
import CommitRules.Proofs.GlobDirectories
import CommitRules.Proofs.GlobLanguage
import CommitRules.Proofs.GlobLists
import CommitRules.Proofs.GlobText
import CommitRules.Proofs.GlobTokens
import CommitRules.Proofs.Grammar
import CommitRules.Proofs.Grouping
import CommitRules.Proofs.Heads
import CommitRules.Proofs.Ledger
import CommitRules.Proofs.LongerHeads
import CommitRules.Proofs.Matching
import CommitRules.Proofs.Meaning
import CommitRules.Proofs.Messages
import CommitRules.Proofs.NamedFiles
import CommitRules.Proofs.Names
import CommitRules.Proofs.Paths
import CommitRules.Proofs.Places
import CommitRules.Proofs.Precedence
import CommitRules.Proofs.Presentation
import CommitRules.Proofs.Questions
import CommitRules.Proofs.RepeatCounts
import CommitRules.Proofs.ReportText
import CommitRules.Proofs.ReportedFaults
import CommitRules.Proofs.Reports
import CommitRules.Proofs.Returning
import CommitRules.Proofs.Series
import CommitRules.Proofs.ShownNames
import CommitRules.Proofs.Template
import CommitRules.Proofs.UnusableConfigs
import CommitRules.Proofs.Verdict
import CommitRules.Proofs.WholeFlags
import CommitRules.Regex.CharClass
import CommitRules.Regex.CharName
import CommitRules.Regex.CharTest
import CommitRules.Regex.Escape
import CommitRules.Regex.Fault
import CommitRules.Regex.Feed
import CommitRules.Regex.Flags
import CommitRules.Regex.Groups
import CommitRules.Regex.LetterNames
import CommitRules.Regex.Matcher
import CommitRules.Regex.Node
import CommitRules.Regex.Reader
import CommitRules.Regex.SymbolNames
import CommitRules.Report.Ledger
import CommitRules.Report.Render
import CommitRules.Report.Summary
import CommitRules.Rule
import CommitRules.Text.Blank
import CommitRules.Text.Identifier
import CommitRules.Text.Letter
import CommitRules.Text.LetterCase
import CommitRules.Text.Lines
import CommitRules.Text.Printable
import CommitRules.Text.Quoted
import CommitRules.Text.Ranges
import CommitRules.Text.Terminal
import CommitRules.Text.Utf8
import CommitRules.Toml.Document
import CommitRules.Toml.Lexical
import CommitRules.Toml.Number
import CommitRules.Toml.Stop
import CommitRules.Toml.Store
import CommitRules.Value
