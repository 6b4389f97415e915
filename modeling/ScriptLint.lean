import ScriptLint.Command.Arguments
import ScriptLint.Command.Help
import ScriptLint.Command.LogFilter
import ScriptLint.Command.Phrase
import ScriptLint.Command.Program
import ScriptLint.Command.Usage
import ScriptLint.Glob.Expand
import ScriptLint.Glob.Meaning
import ScriptLint.Glob.Pattern
import ScriptLint.Glob.Token
import ScriptLint.Glob.Walk
import ScriptLint.Main
import ScriptLint.Process.Cause
import ScriptLint.Process.Executable
import ScriptLint.Process.Outcome
import ScriptLint.Process.StandIn
import ScriptLint.Process.WaitStatus
import ScriptLint.Regular.Atom
import ScriptLint.Regular.CharSet
import ScriptLint.Regular.Expression
import ScriptLint.Regular.Modes
import ScriptLint.Report.Diagnostic
import ScriptLint.Report.Document
import ScriptLint.Report.Form
import ScriptLint.Report.Header
import ScriptLint.Report.Printer
import ScriptLint.Report.Reader
import ScriptLint.Run.Attempt
import ScriptLint.Run.Event
import ScriptLint.Run.Lint
import ScriptLint.Run.Machine
import ScriptLint.Run.Session
import ScriptLint.Script.Assembly
import ScriptLint.Script.Literal
import ScriptLint.Script.Options
import ScriptLint.Script.Routine
import ScriptLint.Script.Source
import ScriptLint.Script.Statements
import ScriptLint.Text.Alphabetic
import ScriptLint.Text.Alphanumeric
import ScriptLint.Text.Basic
import ScriptLint.Text.Blank
import ScriptLint.Text.Decimal
import ScriptLint.Text.Hidden
import ScriptLint.Text.Json
import ScriptLint.Text.JsonReader
import ScriptLint.Text.Numeral
import ScriptLint.Text.Numeric
import ScriptLint.Text.Part
import ScriptLint.Text.Quoted
import ScriptLint.Text.Ranges
import ScriptLint.Text.Terminal
import ScriptLint.Text.Utf8
import ScriptLint.Tree.Basic
import ScriptLint.Tree.Edit
import ScriptLint.Tree.Location
import ScriptLint.Tree.Path
import ScriptLint.Tree.Resolve
import ScriptLint.Proofs.Command.ExitCode
import ScriptLint.Proofs.Command.Flags
import ScriptLint.Proofs.Command.Phrases
import ScriptLint.Proofs.Command.Unreadable
import ScriptLint.Proofs.Glob.Blocks
import ScriptLint.Proofs.Glob.Components
import ScriptLint.Proofs.Glob.Expansion
import ScriptLint.Proofs.Glob.Files
import ScriptLint.Proofs.Glob.Matching
import ScriptLint.Proofs.Glob.Order
import ScriptLint.Proofs.Glob.Reading
import ScriptLint.Proofs.Glob.Texts
import ScriptLint.Proofs.Glob.Walk
import ScriptLint.Proofs.Process.StandIn
import ScriptLint.Proofs.Report.Ambiguity
import ScriptLint.Proofs.Report.Concatenation
import ScriptLint.Proofs.Report.Document
import ScriptLint.Proofs.Report.Header
import ScriptLint.Proofs.Report.Lines
import ScriptLint.Proofs.Report.LineEnds
import ScriptLint.Proofs.Report.Names
import ScriptLint.Proofs.Report.Naming
import ScriptLint.Proofs.Report.Places
import ScriptLint.Proofs.Report.Reader
import ScriptLint.Proofs.Report.RoundTrip
import ScriptLint.Proofs.Run.Attempt
import ScriptLint.Proofs.Run.Contents
import ScriptLint.Proofs.Run.Failures
import ScriptLint.Proofs.Run.Handover
import ScriptLint.Proofs.Run.Leaks
import ScriptLint.Proofs.Run.Precedence
import ScriptLint.Proofs.Run.Session
import ScriptLint.Proofs.Run.Stages
import ScriptLint.Proofs.Script.Assembly
import ScriptLint.Proofs.Script.Calls
import ScriptLint.Proofs.Script.Literal
import ScriptLint.Proofs.Script.Passes
import ScriptLint.Proofs.Script.Size
import ScriptLint.Proofs.Script.Statements
import ScriptLint.Proofs.Script.Units
import ScriptLint.Proofs.Script.Words
import ScriptLint.Proofs.Steps
import ScriptLint.Proofs.Text.Agreement
import ScriptLint.Proofs.Text.Boundary
import ScriptLint.Proofs.Text.Bytes
import ScriptLint.Proofs.Text.Decimal
import ScriptLint.Proofs.Text.Encoding
import ScriptLint.Proofs.Text.Json
import ScriptLint.Proofs.Text.Malformed
import ScriptLint.Proofs.Text.Part
import ScriptLint.Proofs.Text.Replacement
import ScriptLint.Proofs.Text.Utf8
import ScriptLint.Proofs.Tree.Descent
import ScriptLint.Proofs.Tree.Lookup
import ScriptLint.Proofs.Tree.Names
