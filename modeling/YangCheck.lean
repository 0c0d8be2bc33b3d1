import YangCheck.Text.Blank
import YangCheck.Text.Lines
import YangCheck.Text.Utf8
import YangCheck.Text.Quoted
import YangCheck.Decimal.Binary53
import YangCheck.Json.Parser
import YangCheck.Log.Service
import YangCheck.Log.Trace
import YangCheck.Model.Tree
import YangCheck.Model.Json
import YangCheck.Model.Source
import YangCheck.Outline.Builder
import YangCheck.Outline.Nest
import YangCheck.Lint.Checker
import YangCheck.File.Disk
import YangCheck.File.Policy
import YangCheck.Duration
import YangCheck.Inspection.Basic
import YangCheck.Batch.Run
import YangCheck.Main
import YangCheck.Proofs.Outline.Layout
import YangCheck.Proofs.Outline.Simulation
import YangCheck.Proofs.Outline.Refinement
import YangCheck.File.SourceLines
import YangCheck.Proofs.File.LineReader
import YangCheck.Proofs.File.SourceLines
import YangCheck.Proofs.File.Streaming
import YangCheck.Proofs.Model.SourceRoundTrip
import YangCheck.Proofs.Batch.Agreement
import YangCheck.Proofs.Batch.Stopping
import YangCheck.Proofs.Batch.FailFast
import YangCheck.Proofs.Lint.Checker
import YangCheck.Proofs.Inspection.ModulePresence
import YangCheck.Proofs.Inspection.Modes
import YangCheck.Proofs.Lint.Findings
import YangCheck.Proofs.Lint.StatementLine
import YangCheck.Proofs.Lint.CleanSource
import YangCheck.Proofs.Inspection.Braces
import YangCheck.Proofs.Batch.Discovery
import YangCheck.Proofs.Inspection.Spacing
import YangCheck.Proofs.Text.Pattern
import YangCheck.Statement.Form
import YangCheck.Proofs.Statement.Form
import YangCheck.Proofs.Statement.Grammar
import YangCheck.Outline.Assembly
import YangCheck.Proofs.Outline.Assembly
import YangCheck.Proofs.Outline.Preorder
import YangCheck.Proofs.Json.Literal
import YangCheck.Proofs.Json.Layout
import YangCheck.Proofs.Json.Number
import YangCheck.Proofs.Json.Reading
import YangCheck.Proofs.Json.Record
import YangCheck.Proofs.Model.Json
import YangCheck.Proofs.Statement.Marks
import YangCheck.Proofs.Lint.Terminator
import YangCheck.Proofs.Outline.Closed
import YangCheck.Proofs.Outline.Metadata
import YangCheck.Proofs.Text.LineEnds
import YangCheck.Proofs.Sink
import YangCheck.Proofs.File.Policy
import YangCheck.Proofs.Lint.Output
import YangCheck.Proofs.File.Link
import YangCheck.Proofs.Text.Lowercase
import YangCheck.Proofs.Batch.Extension
import YangCheck.Model.Skeleton
import YangCheck.Log.Delivery
import YangCheck.Proofs.Model.Tree
import YangCheck.Proofs.Log.Window
import YangCheck.Proofs.Json.Control
import YangCheck.Proofs.Log.JsonLine
import YangCheck.Proofs.CommandLine.Arguments
import YangCheck.Proofs.CommandLine.Options
import YangCheck.Proofs.Decimal.Rounding
import YangCheck.Proofs.File.Size
import YangCheck.Proofs.Text.Front
import YangCheck.Proofs.Log.Message
