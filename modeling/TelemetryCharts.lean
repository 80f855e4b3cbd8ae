import TelemetryCharts.Chart.Basic
import TelemetryCharts.Chart.Configuration
import TelemetryCharts.Chart.Format
import TelemetryCharts.Chart.Toml
import TelemetryCharts.Decimal.Binary
import TelemetryCharts.Decimal.Digits
import TelemetryCharts.Decimal.Numeral
import TelemetryCharts.Decimal.Read
import TelemetryCharts.Decimal.Shortest
import TelemetryCharts.Drawing.Axis
import TelemetryCharts.Drawing.Command
import TelemetryCharts.Drawing.Painter
import TelemetryCharts.Drawing.Picture
import TelemetryCharts.Drawing.Stroke
import TelemetryCharts.Drawing.Svg
import TelemetryCharts.Drawing.Ticks
import TelemetryCharts.Failure
import TelemetryCharts.FileSystem
import TelemetryCharts.Json.Decode
import TelemetryCharts.Json.Number
import TelemetryCharts.Json.Printer
import TelemetryCharts.Json.Text
import TelemetryCharts.Json.Token
import TelemetryCharts.Json.Value
import TelemetryCharts.Main
import TelemetryCharts.Path
import TelemetryCharts.Proofs.Chart.Outputs
import TelemetryCharts.Proofs.Decimal.Binary
import TelemetryCharts.Proofs.Decimal.Digits
import TelemetryCharts.Proofs.Decimal.Doubles
import TelemetryCharts.Proofs.Decimal.Shortest
import TelemetryCharts.Proofs.Decimal.Whole
import TelemetryCharts.Proofs.Files.Actions
import TelemetryCharts.Proofs.Files.Changes
import TelemetryCharts.Proofs.Files.Combination
import TelemetryCharts.Proofs.Files.Descent
import TelemetryCharts.Proofs.Files.Footprint
import TelemetryCharts.Proofs.Files.Lineage
import TelemetryCharts.Proofs.Files.Nodes
import TelemetryCharts.Proofs.Files.Readback
import TelemetryCharts.Proofs.Files.Reading
import TelemetryCharts.Proofs.Files.Segments
import TelemetryCharts.Proofs.Files.Walk
import TelemetryCharts.Proofs.Files.Ways
import TelemetryCharts.Proofs.Files.Writing
import TelemetryCharts.Proofs.Json.Decoding
import TelemetryCharts.Proofs.Json.Printing
import TelemetryCharts.Proofs.Json.Scanning
import TelemetryCharts.Proofs.Series.Alignment
import TelemetryCharts.Proofs.Series.Cells
import TelemetryCharts.Proofs.Series.Counters
import TelemetryCharts.Proofs.Series.Derivation
import TelemetryCharts.Proofs.Series.Export
import TelemetryCharts.Proofs.Series.Heaps
import TelemetryCharts.Proofs.Series.Markers
import TelemetryCharts.Proofs.Series.Merging
import TelemetryCharts.Proofs.Series.Outcomes
import TelemetryCharts.Proofs.Series.Truncation
import TelemetryCharts.Proofs.Series.Windows
import TelemetryCharts.Proofs.Session.Accounts
import TelemetryCharts.Proofs.Session.Drawings
import TelemetryCharts.Proofs.Session.Effects
import TelemetryCharts.Proofs.Session.Independence
import TelemetryCharts.Proofs.Session.Leftovers
import TelemetryCharts.Proofs.Session.Overflow
import TelemetryCharts.Proofs.Session.Runs
import TelemetryCharts.Proofs.Session.Stages
import TelemetryCharts.Proofs.Table.Columns
import TelemetryCharts.Proofs.Table.Contents
import TelemetryCharts.Proofs.Table.Inference
import TelemetryCharts.Proofs.Table.Quoting
import TelemetryCharts.Proofs.Table.Readers
import TelemetryCharts.Proofs.Table.Rows
import TelemetryCharts.Proofs.Table.Shape
import TelemetryCharts.Proofs.Table.Sheets
import TelemetryCharts.Proofs.Table.TextColumns
import TelemetryCharts.Proofs.Table.Texts
import TelemetryCharts.Proofs.Telemetry.Columns
import TelemetryCharts.Proofs.Telemetry.Loading
import TelemetryCharts.Proofs.Text.Utf8
import TelemetryCharts.Proofs.Traversal
import TelemetryCharts.Proofs.Words
import TelemetryCharts.Series.Basic
import TelemetryCharts.Series.Derive
import TelemetryCharts.Series.Json
import TelemetryCharts.Series.Markers
import TelemetryCharts.Series.Merge
import TelemetryCharts.Series.Scale
import TelemetryCharts.Session.CommandLine
import TelemetryCharts.Session.Execute
import TelemetryCharts.Session.Log
import TelemetryCharts.Session.Program
import TelemetryCharts.Session.Snapshot
import TelemetryCharts.Table.Cell
import TelemetryCharts.Table.Column
import TelemetryCharts.Table.Field
import TelemetryCharts.Table.Frame
import TelemetryCharts.Table.Kind
import TelemetryCharts.Table.Printer
import TelemetryCharts.Table.Reader
import TelemetryCharts.Telemetry.ColumnName
import TelemetryCharts.Telemetry.Event
import TelemetryCharts.Telemetry.Json
import TelemetryCharts.Telemetry.Record
import TelemetryCharts.Telemetry.Table
import TelemetryCharts.Text.DecimalDigit
import TelemetryCharts.Text.Quoted
import TelemetryCharts.Text.Utf8
import TelemetryCharts.Text.Visible
import TelemetryCharts.Toml.Document
import TelemetryCharts.Toml.Draft
import TelemetryCharts.Toml.Number
import TelemetryCharts.Toml.Scan
import TelemetryCharts.Toml.Text
import TelemetryCharts.Toml.Value
import TelemetryCharts.Word
import TelemetryCharts.Proofs.Series.Partition
import TelemetryCharts.Proofs.Table.Scans
import TelemetryCharts.Proofs.Table.Likeness
import TelemetryCharts.Proofs.Table.Sampling
import TelemetryCharts.Proofs.Series.Relevance
import TelemetryCharts.Proofs.Chart.Drawable
import TelemetryCharts.Proofs.Json.Escaping
import TelemetryCharts.Proofs.Json.Passages
import TelemetryCharts.Proofs.Telemetry.Objects
import TelemetryCharts.Proofs.Chart.Filling
import TelemetryCharts.Proofs.Session.Arguments
import TelemetryCharts.Proofs.Session.Settings
import TelemetryCharts.Proofs.Series.Coverage
import TelemetryCharts.Proofs.Drawing.Legend
import TelemetryCharts.Proofs.Drawing.Axes
