import TelemetryCharts.Json.Decode
import TelemetryCharts.Json.Printer
import TelemetryCharts.Telemetry.ColumnName
import TelemetryCharts.Telemetry.Record

/-!
# Events and records as JSON

An event is its label. A record is an object with a member for each column of its table.
-/

namespace TelemetryCharts

open Json (Value)

/-- The value for an event. -/
def Event.toJson (e : Event) : Value :=
  .string (Json.escape e.label.toList)

/-- The event that the content of a string names. -/
def Event.ofRaw? (raw : List Char) : Option Event := do
  let label ← Json.unescape raw
  ofLabel? (String.ofList label)

/-- The event that a value stands for: a label, or an object with the label as its only name and
nothing under it. -/
def Event.ofJson? : Value → Option Event
  | .string raw => ofRaw? raw
  | .object [(name, .null)] => ofRaw? name
  | _ => none

namespace Record

/-- The fields of a record, in the order of the columns. -/
def jsonFields (r : Record) : List Value :=
  [Json.ofInt r.timeStep.toInt] ++ counts r.get ++ counts r.put ++ counts r.delete ++
    [Json.ofNat r.totalSucc.toNat, .string (Json.escape r.event.toList)]
where
  counts (c : Counts) : List Value :=
    [Json.ofNat c.count.toNat, Json.ofNat c.failCount.toNat, Json.ofFloat c.time]

/-- The value for a record. -/
def toJson (r : Record) : Value :=
  .object ((ColumnName.all.map String.toList).zip r.jsonFields)

/-- The counts in three fields. -/
def countsOfJson? (count failCount time : Value) : Option Counts := do
  return ⟨← count.counter?, ← failCount.counter?, ← time.double?⟩

/-- The record that a value stands for. -/
def ofJson? (v : Value) : Option Record := do
  match ← v.fields? ColumnName.all with
  | [timeStep, getCount, getFailCount, getTime, putCount, putFailCount, putTime, deleteCount,
      deleteFailCount, deleteTime, totalSucc, event] =>
    return {
      timeStep := ← timeStep.signedWord?
      get := ← countsOfJson? getCount getFailCount getTime
      put := ← countsOfJson? putCount putFailCount putTime
      delete := ← countsOfJson? deleteCount deleteFailCount deleteTime
      totalSucc := ← totalSucc.counter?
      event := String.ofList (← event.text?) }
  | _ => none

end Record

end TelemetryCharts
