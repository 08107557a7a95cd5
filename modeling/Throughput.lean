import Throughput.Main
import Throughput.Unicode.Age
import Throughput.Unicode.Break
import Throughput.Unicode.Folding
import Throughput.Unicode.Script
import Throughput.Pattern.Cursor
import Throughput.Pattern.Escape
import Throughput.Pattern.Brackets
import Throughput.Pattern.Groups
import Throughput.Pattern.Nesting
import Throughput.Pattern.Reading
import Throughput.Proofs.Binary64.Rounding
import Throughput.Proofs.Binary64.Units
import Throughput.Proofs.Binary64.Extremes
import Throughput.Proofs.Chart.Axis
import Throughput.Proofs.Result
import Throughput.Proofs.Json.FiniteNumbers
import Throughput.Proofs.Text.WellFormed
import Throughput.Proofs.Json.Remainder
import Throughput.Proofs.Chart.Series
import Throughput.Proofs.Table.Load
import Throughput.Proofs.Summary
import Throughput.Proofs.Chart.Agreement
import Throughput.Proofs.Run
import Throughput.Proofs.Pipeline.Steps
import Throughput.Proofs.Pipeline.Course
import Throughput.Proofs.Commands.Batch
import Throughput.Proofs.Json.StringToken
import Throughput.Proofs.Json.Origins
import Throughput.Proofs.Json.Extension
import Throughput.Proofs.Table.WholeLog
import Throughput.Proofs.Table.Consistency
import Throughput.Proofs.Table.Sources
import Throughput.Proofs.Binary64.Nearest
import Throughput.Proofs.Json.Written
import Throughput.Proofs.Json.Tokens
import Throughput.Proofs.Json.Reading
import Throughput.Proofs.Table.Columns
import Throughput.Proofs.Table.LastMembers
import Throughput.Proofs.Batch.Jobs
import Throughput.Proofs.Commands.Preflight
import Throughput.Proofs.FileTree.Resolution
import Throughput.Proofs.Pipeline.Remnant
import Throughput.Proofs.CommandLine.Settings
import Throughput.Proofs.Commands.ImageSizes
import Throughput.Proofs.Path
import Throughput.Proofs.Pipeline.Placement
import Throughput.Proofs.FileTree.Change
import Throughput.Proofs.Render.Footprint
import Throughput.Proofs.Pipeline.Effects
import Throughput.Proofs.Pipeline.Sequence
import Throughput.Proofs.Pipeline.Repetition
import Throughput.Proofs.FileTree.Locality
import Throughput.Proofs.Pipeline.Independence
import Throughput.Proofs.Pipeline.Images
import Throughput.Proofs.Commands.Overwriting
import Throughput.Proofs.Chart.Coverage
import Throughput.Proofs.Summary.Interrupted
import Throughput.Proofs.CommandLine.PlotArguments
import Throughput.Proofs.Batch.Format
import Throughput.Proofs.Chart.Segments
import Throughput.Proofs.Table.Faults
import Throughput.Proofs.Binary64.Mebibytes
import Throughput.Proofs.Table.Rows
import Throughput.Proofs.Summary.Busiest
import Throughput.Proofs.Binary64.Whole
import Throughput.Proofs.Summary.Mean
import Throughput.Proofs.Binary64.Order
import Throughput.Proofs.Binary64.SameValue
import Throughput.Proofs.Chart.Dependence
import Throughput.Proofs.Chart.WrittenSize
import Throughput.Proofs.Summary.Span
import Throughput.Proofs.Table.Conversion
import Throughput.Proofs.FileTree.Grounded
import Throughput.Proofs.OutputDirectory
import Throughput.Proofs.Batch.Defaults
import Throughput.Proofs.Text.ControlSequence
import Throughput.Proofs.Binary64.Text
import Throughput.Proofs.Summary.Printed
import Throughput.Proofs.Text.Lossy
import Throughput.Proofs.Path.FileName
import Throughput.Proofs.Commands.Naming
