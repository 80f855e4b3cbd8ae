import TelemetryCharts.Table.Reader
import TelemetryCharts.Telemetry.ColumnName

/-!
# Telemetry frames

A telemetry table is loaded as a frame in which the required columns have fixed types, whatever
their cells looked like. Other columns are kept as they were read.
-/

namespace TelemetryCharts.Frame

/-- The column with a name. -/
def column? (frame : Frame) (name : String) : Option Column :=
  frame.columns.lookup name

/-- The names of all columns, in the order of the table. -/
def names (frame : Frame) : List String :=
  frame.columns.map (·.1)

/-- How many rows a frame has. -/
def height (frame : Frame) : Nat :=
  frame.columns.head?.elim 0 fun (_, column) => column.length

/-- The first `n` rows of a frame. -/
def take (n : Nat) (frame : Frame) : Frame :=
  ⟨frame.columns.map fun (name, column) => (name, column.take n)⟩

/-- The required columns that a frame does not have. -/
def missing (frame : Frame) : List String :=
  ColumnName.required.filter fun name => (frame.column? name).isNone

/-- The types that required columns are given. Time steps and totals become doubles, failure
counters become counters, of which a missing one counts nothing, and events become text. Other
columns stay as they are. -/
def normalColumn (name : String) (column : Column) : Column :=
  if name ∈ [ColumnName.timeStep, ColumnName.totalSucc] then .floats column.toFloats
  else if name ∈ [ColumnName.getFailCount, ColumnName.putFailCount, ColumnName.deleteFailCount] then
    .counters (column.toCounters.map fun n => some (n.getD 0))
  else if name = ColumnName.event then .text column.toTexts
  else column

/-- The frame with its required columns in their fixed types. -/
def normalise (frame : Frame) : Frame :=
  ⟨frame.columns.map fun (name, column) => (name, normalColumn name column)⟩

/-- The telemetry frame in the file that a path leads to, or its first rows where `truncate` says
how many. The whole table must be sound even if only a part of it is asked for. -/
def load (fs : FileSystem) (path : Path) (truncate : Option Nat) : Outcome Frame := do
  if !fs.isFile path then fail (.tableNotFound path)
  let reading := s!"Failed to read telemetry table: {Text.quoted path.text}"
  let content ← (fs.read path).mapError fun e => .ofCause (.file e)
  let frame ← Outcome.within reading <|
    (Table.read content.toList).mapError fun e => .ofCause (.table e)
  if frame.missing ≠ [] then fail (.missingColumns path frame.missing)
  let frame := frame.normalise
  return truncate.elim frame frame.take

end TelemetryCharts.Frame
