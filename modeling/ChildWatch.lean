import ChildWatch.Command
import ChildWatch.CommandLine.Help
import ChildWatch.CommandLine.Options
import ChildWatch.CommandLine.Program
import ChildWatch.Config.Basic
import ChildWatch.Config.Decode
import ChildWatch.Config.Load
import ChildWatch.Config.SearchPath
import ChildWatch.Decimal.Binary
import ChildWatch.Decimal.Literal
import ChildWatch.Decimal.Shortest
import ChildWatch.Error
import ChildWatch.Error.Io
import ChildWatch.Files.Access
import ChildWatch.Files.Path
import ChildWatch.Files.Tree
import ChildWatch.Journal.Entry
import ChildWatch.Journal.Filter
import ChildWatch.Log.Buffer
import ChildWatch.Log.Channel
import ChildWatch.Log.Pump
import ChildWatch.Log.Wait
import ChildWatch.Machine.Basic
import ChildWatch.Machine.Builtin
import ChildWatch.Machine.Filter
import ChildWatch.Machine.Load
import ChildWatch.Machine.Process
import ChildWatch.Machine.Run
import ChildWatch.Machine.Step
import ChildWatch.Machine.Surroundings
import ChildWatch.Machine.Tool
import ChildWatch.Machine.Turn
import ChildWatch.Main
import ChildWatch.Pattern
import ChildWatch.Regex.CharClass
import ChildWatch.Regex.Expr
import ChildWatch.Regex.Reader
import ChildWatch.Regex.Reader.Atom
import ChildWatch.Regex.Reader.Bracket
import ChildWatch.Regex.Search
import ChildWatch.Report.Sink
import ChildWatch.Report.TraceMode
import ChildWatch.Report.Traces
import ChildWatch.Session.Basic
import ChildWatch.Session.Capture
import ChildWatch.Session.Delivery
import ChildWatch.Session.Host
import ChildWatch.Session.Launch
import ChildWatch.Session.Release
import ChildWatch.Session.State
import ChildWatch.Shell.Arithmetic
import ChildWatch.Shell.Demand
import ChildWatch.Shell.Expansion
import ChildWatch.Shell.Format
import ChildWatch.Shell.Glob
import ChildWatch.Shell.Options
import ChildWatch.Shell.Script
import ChildWatch.Shell.Test
import ChildWatch.Shell.Token
import ChildWatch.Shell.Word
import ChildWatch.Signal
import ChildWatch.Stream
import ChildWatch.Text.Line
import ChildWatch.Text.Quoted
import ChildWatch.Text.Utf8
import ChildWatch.Time.Duration
import ChildWatch.Time.Instant
import ChildWatch.Time.Seconds
import ChildWatch.Toml.Document
import ChildWatch.Toml.Excerpt
import ChildWatch.Toml.Reader.Scalar
import ChildWatch.Toml.Reader.Text
import ChildWatch.Toml.Table
import ChildWatch.Toml.Value
import ChildWatch.Unicode.Category
import ChildWatch.Unicode.Folding
import ChildWatch.Unicode.Property
import ChildWatch.Unicode.Runs
import ChildWatch.Unicode.Script
import ChildWatch.Proofs.Log.BufferRuns
import ChildWatch.Proofs.Log.ClosedMark
import ChildWatch.Proofs.Log.WaitVerdict
import ChildWatch.Proofs.Log.PumpTranscript
import ChildWatch.Proofs.Session.CaptureFollows
import ChildWatch.Proofs.Session.Runs
import ChildWatch.Proofs.Session.Rehearsal
import ChildWatch.Proofs.Session.CaptureRuns
import ChildWatch.Proofs.Session.Course
import ChildWatch.Proofs.Session.GracePeriod
import ChildWatch.Proofs.Session.Leftovers
import ChildWatch.Proofs.Session.Escalation
import ChildWatch.Proofs.Session.AfterReaping
import ChildWatch.Proofs.Session.Looks
import ChildWatch.Proofs.Text.Decoding
import ChildWatch.Proofs.Text.WellFormed
import ChildWatch.Proofs.Text.Lines
import ChildWatch.Proofs.Text.Surroundings
import ChildWatch.Proofs.Log.CapturedText
import ChildWatch.Proofs.Session.RecordedState
import ChildWatch.Proofs.Report.Writing
import ChildWatch.Proofs.CommandLine.ExitCode
import ChildWatch.Proofs.CommandLine.Reading
import ChildWatch.Proofs.Report.ReadBack
import ChildWatch.Proofs.Toml.PlainLines
import ChildWatch.Proofs.Config.GivenSettings
import ChildWatch.Proofs.Config.ReadBack
import ChildWatch.Proofs.Config.Loading
import ChildWatch.Proofs.Session.FullOutput
import ChildWatch.Proofs.CommandLine.Waits
import ChildWatch.Proofs.CommandLine.Verdict
import ChildWatch.Proofs.Regex.Words
import ChildWatch.Proofs.Regex.Acceptance
import ChildWatch.Proofs.Regex.Literal
import ChildWatch.Proofs.Decimal.Nearest
import ChildWatch.Proofs.Decimal.Rounding
import ChildWatch.Proofs.Decimal.Numeral
import ChildWatch.Proofs.Time.Seconds
import ChildWatch.Proofs.Session.Frame
import ChildWatch.Proofs.Session.Deadlines
