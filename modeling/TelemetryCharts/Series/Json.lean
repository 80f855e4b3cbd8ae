import TelemetryCharts.Json.Decode
import TelemetryCharts.Json.Printer
import TelemetryCharts.Series.Basic
import TelemetryCharts.Telemetry.Json

/-!
# Series as JSON

A series is an object whose markers are an object with a list for each kind that has an entry.
Infinities and NaN are written as `null`, so a series that holds any cannot be read back.
-/

namespace TelemetryCharts

open Json (Value)

/-- A member of an object. Its name needs no escapes. -/
def Json.named (name : String) (v : Value) : List Char × Value :=
  (name.toList, v)

/-- The names of the fields of a marker. -/
def Marker.fieldNames : List String := ["row", "time_step"]

/-- The value for a marker. -/
def Marker.toJson (m : Marker Float) : Value :=
  .object [Json.named "row" (Json.ofNat m.row), Json.named "time_step" (Json.ofFloat m.timeStep)]

/-- The marker that a value stands for. -/
def Marker.ofJson? (v : Value) : Option (Marker Float) := do
  match ← v.fields? fieldNames with
  | [row, timeStep] => return ⟨← row.word?, ← timeStep.double?⟩
  | _ => none

namespace Markers

/-- The value for markers. -/
def toJson (markers : Markers Float) : Value :=
  .object (markers.entries.map fun (kind, found) =>
    Json.named kind.label (.array (found.map Marker.toJson)))

/-- The markers in the members of an object. Of two members for one kind the later one counts. -/
def ofMembers? : Markers Float → List (List Char × Value) → Option (Markers Float)
  | markers, [] => some markers
  | markers, (name, v) :: rest => do
    let kind ← Event.ofRaw? name
    let found ← v.list? Marker.ofJson?
    ofMembers? (markers.insert kind found) rest

/-- The markers that a value stands for. -/
def ofJson? : Value → Option (Markers Float)
  | .object members => ofMembers? ⟨fun _ => none⟩ members
  | _ => none

end Markers

/-- The names of the fields of a moving average. -/
def Smoothed.fieldNames : List String := ["time_steps", "values"]

/-- The value for a list of doubles. -/
def Json.ofFloats (xs : List Float) : Value :=
  .array (xs.map Json.ofFloat)

/-- The value for a moving average. -/
def Smoothed.toJson (s : Smoothed Float) : Value :=
  .object [Json.named "time_steps" (Json.ofFloats s.timeSteps),
    Json.named "values" (Json.ofFloats s.values)]

/-- The moving average that a value stands for. -/
def Smoothed.ofJson? (v : Value) : Option (Smoothed Float) := do
  match ← v.fields? fieldNames with
  | [timeSteps, values] => return ⟨← timeSteps.list? Value.double?, ← values.list? Value.double?⟩
  | _ => none

namespace Series

/-- The names of the fields of a series. -/
def fieldNames : List String :=
  ["window", "time_steps", "moving_average", "failure_total", "event_markers"]

/-- The value for a series. -/
def toJson (s : Series Float) : Value :=
  .object [Json.named "window" (Json.ofNat s.window),
    Json.named "time_steps" (Json.ofFloats s.timeSteps),
    Json.named "moving_average" s.average.toJson,
    Json.named "failure_total" (.array (s.failureTotal.map fun n => Json.ofNat n.toNat)),
    Json.named "event_markers" s.markers.toJson]

/-- The series that a value stands for. -/
def ofJson? (v : Value) : Option (Series Float) := do
  match ← v.fields? fieldNames with
  | [window, timeSteps, average, failureTotal, markers] =>
    return {
      window := ← window.word?
      timeSteps := ← timeSteps.list? Value.double?
      average := ← Smoothed.ofJson? average
      failureTotal := ← failureTotal.list? Value.counter?
      markers := ← Markers.ofJson? markers }
  | _ => none

end Series

end TelemetryCharts
