import LintBroker.Analysis
import LintBroker.Cli.Arguments
import LintBroker.Cli.Command
import LintBroker.Cli.Invocation
import LintBroker.Cli.Spec
import LintBroker.Data.Datum
import LintBroker.Data.Display
import LintBroker.Data.Template
import LintBroker.Engine.Availability
import LintBroker.Engine.Basic
import LintBroker.Engine.Bundled
import LintBroker.Engine.Command
import LintBroker.Engine.Override
import LintBroker.Engine.Run
import LintBroker.Failure
import LintBroker.Files.Disk
import LintBroker.Files.Path
import LintBroker.Files.SystemError
import LintBroker.Files.Tree
import LintBroker.Host
import LintBroker.Issue
import LintBroker.Journal.Book
import LintBroker.Journal.Line
import LintBroker.Journal.LogFile
import LintBroker.Journal.Logger
import LintBroker.Journal.Record
import LintBroker.Json.Printer
import LintBroker.Json.Reader
import LintBroker.Language
import LintBroker.Main
import LintBroker.Number.Binary64
import LintBroker.Number.Decimal
import LintBroker.Number.Digits
import LintBroker.Number.Layout
import LintBroker.Number.Numeral
import LintBroker.Number.Rounded
import LintBroker.Number.Shortest
import LintBroker.Number.Whole
import LintBroker.Program.Basic
import LintBroker.Program.Launch
import LintBroker.Program.Search
import LintBroker.Program.Signal
import LintBroker.Program.Start
import LintBroker.Program.System
import LintBroker.Program.Utility
import LintBroker.Program.Utility.Basic
import LintBroker.Program.Utility.Choice
import LintBroker.Program.Utility.Concatenation
import LintBroker.Program.Utility.Copies
import LintBroker.Program.Utility.Counting
import LintBroker.Program.Utility.Echo
import LintBroker.Program.Utility.Entries
import LintBroker.Program.Utility.Environment
import LintBroker.Program.Utility.Identity
import LintBroker.Program.Utility.Letters
import LintBroker.Program.Utility.Listing
import LintBroker.Program.Utility.Names
import LintBroker.Program.Utility.Parts
import LintBroker.Program.Utility.Printing
import LintBroker.Program.Utility.Quoting
import LintBroker.Program.Utility.Repeats
import LintBroker.Program.Utility.Selection
import LintBroker.Program.Utility.Sequence
import LintBroker.Program.Utility.Sorting
import LintBroker.Program.Utility.Testing
import LintBroker.Program.Utility.Time
import LintBroker.Program.World
import LintBroker.Project
import LintBroker.Proofs.Actions
import LintBroker.Proofs.Analysis
import LintBroker.Proofs.Availability
import LintBroker.Proofs.CallEnds
import LintBroker.Proofs.CallRecords
import LintBroker.Proofs.CommandLine
import LintBroker.Proofs.CommandParts
import LintBroker.Proofs.CommandText
import LintBroker.Proofs.CommandWords
import LintBroker.Proofs.Diagnostic
import LintBroker.Proofs.EngineEntry
import LintBroker.Proofs.EngineList
import LintBroker.Proofs.EngineLoading
import LintBroker.Proofs.EngineTable
import LintBroker.Proofs.ExitCode
import LintBroker.Proofs.Fields
import LintBroker.Proofs.Filling
import LintBroker.Proofs.IssueIds
import LintBroker.Proofs.Journal
import LintBroker.Proofs.JournalTargets
import LintBroker.Proofs.JsonDigits
import LintBroker.Proofs.JsonGrammar
import LintBroker.Proofs.JsonNumber
import LintBroker.Proofs.JsonRoundTrip
import LintBroker.Proofs.JsonStrict
import LintBroker.Proofs.JsonText
import LintBroker.Proofs.LaunchRefusal
import LintBroker.Proofs.LineCut
import LintBroker.Proofs.Lines
import LintBroker.Proofs.LogLine
import LintBroker.Proofs.Overflow
import LintBroker.Proofs.Path
import LintBroker.Proofs.PathLanguage
import LintBroker.Proofs.PythonReport
import LintBroker.Proofs.ReadingConfig
import LintBroker.Proofs.RefusedPath
import LintBroker.Proofs.Reply
import LintBroker.Proofs.ReportParts
import LintBroker.Proofs.ReportSource
import LintBroker.Proofs.Reports
import LintBroker.Proofs.Requests
import LintBroker.Proofs.Schema
import LintBroker.Proofs.Session
import LintBroker.Proofs.SessionLog
import LintBroker.Proofs.Shortest
import LintBroker.Proofs.StartWarnings
import LintBroker.Proofs.TargetArgument
import LintBroker.Proofs.TimeLimits
import LintBroker.Proofs.TomlDigits
import LintBroker.Proofs.Trace
import LintBroker.Proofs.Utf8
import LintBroker.Proofs.Walk
import LintBroker.Report.Eslint
import LintBroker.Report.Fields
import LintBroker.Report.Htmlhint
import LintBroker.Report.Pyright
import LintBroker.Report.Source
import LintBroker.Report.Stylelint
import LintBroker.Session.Options
import LintBroker.Session.Serving
import LintBroker.Shell.Builtin
import LintBroker.Shell.Builtin.Alias
import LintBroker.Shell.Builtin.Basic
import LintBroker.Shell.Builtin.Control
import LintBroker.Shell.Builtin.Directory
import LintBroker.Shell.Builtin.Input
import LintBroker.Shell.Builtin.Jobs
import LintBroker.Shell.Builtin.Mask
import LintBroker.Shell.Builtin.Output
import LintBroker.Shell.Builtin.Signals
import LintBroker.Shell.Builtin.Variables
import LintBroker.Shell.Condition
import LintBroker.Shell.Copy
import LintBroker.Shell.Cursor
import LintBroker.Shell.Expansion
import LintBroker.Shell.Field
import LintBroker.Shell.Format
import LintBroker.Shell.Grammar
import LintBroker.Shell.Interpreter
import LintBroker.Shell.Loop
import LintBroker.Shell.Meaning
import LintBroker.Shell.Parts
import LintBroker.Shell.Pattern
import LintBroker.Shell.ProgramCall
import LintBroker.Shell.Reader
import LintBroker.Shell.Redirection
import LintBroker.Shell.Run
import LintBroker.Shell.Script
import LintBroker.Shell.SimpleCommand
import LintBroker.Shell.State
import LintBroker.Shell.Sum
import LintBroker.Shell.Switch
import LintBroker.Shell.Words
import LintBroker.Text.Blank
import LintBroker.Text.ControlSequence
import LintBroker.Text.Digit
import LintBroker.Text.Lines
import LintBroker.Text.LowerCase
import LintBroker.Text.Octets
import LintBroker.Text.Printable
import LintBroker.Text.Quoted
import LintBroker.Text.Similarity
import LintBroker.Text.Span
import LintBroker.Text.Split
import LintBroker.Text.Utf8
import LintBroker.Text.Word
import LintBroker.Toml.Document
import LintBroker.Toml.Lexeme
import LintBroker.Toml.Nest
import LintBroker.Toml.Scalar
import LintBroker.Tool.Action
import LintBroker.Tool.Schema
import LintBroker.Tool.Server
import LintBroker.Traced
