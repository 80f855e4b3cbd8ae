import TelemetryCharts.Series.Basic
import TelemetryCharts.Table.Frame

/-!
# Deriving series from frames

The columns of a frame are taken one after the other, and each has to be there, to have its type,
and, apart from the labels of events, to have no missing cell.
-/

namespace TelemetryCharts.Frame

/-- The column with a name, which has to be there. -/
def required (frame : Frame) (name : String) : Outcome Column :=
  match frame.column? name with
  | some column => .ok column
  | none => fail (.table .missingColumn)

/-- The cells of a column, none of which may be missing. -/
def present {α : Type} (name : String) (cells : List (Option α)) : Outcome (List α) :=
  match cells.mapM id with
  | some values => .ok values
  | none => fail (.nullValue name)

/-- The cells of a column of doubles. -/
def floatCells : Column → Outcome (List (Option Float))
  | .floats cells => .ok cells
  | _ => fail (.table .wrongType)

/-- The cells of a column of counters. -/
def counterCells : Column → Outcome (List (Option UInt64))
  | .counters cells => .ok cells
  | _ => fail (.table .wrongType)

/-- The cells of a column that can be compared with labels. Truth values can, as the words for
them; numbers cannot. -/
def labelCells : Column → Outcome (List (Option String))
  | .text cells => .ok cells
  | .booleans cells => .ok (Column.booleans cells).toTexts
  | _ => fail (.table .notText)

/-- The doubles in a column. -/
def floats (frame : Frame) (name : String) : Outcome (List Float) := do
  present name (← floatCells (← frame.required name))

/-- The counters in a column. -/
def counters (frame : Frame) (name : String) : Outcome (List UInt64) := do
  present name (← counterCells (← frame.required name))

/-- The markers of the tracked events in a frame. A missing time step counts as zero. -/
def markers (frame : Frame) : Outcome (Markers Float) := do
  let timeStep ← frame.required ColumnName.timeStep
  let event ← frame.required ColumnName.event
  let labels ← labelCells event
  let timeSteps ← floatCells timeStep
  return .ofLabels (timeSteps.map (·.getD 0)) labels

/-- The series of a frame. -/
def series (frame : Frame) (window : Nat) : Outcome (Series Float) := do
  if window = 0 then fail .windowOfZero
  let timeSteps ← frame.floats ColumnName.timeStep
  let totalSucc ← frame.floats ColumnName.totalSucc
  let get ← frame.counters ColumnName.getFailCount
  let put ← frame.counters ColumnName.putFailCount
  let delete ← frame.counters ColumnName.deleteFailCount
  let failureTotal ← failureTotals get put delete
  let markers ← frame.markers.within "Extract lifecycle event markers"
  return .ofColumns window timeSteps totalSucc failureTotal markers

end TelemetryCharts.Frame
