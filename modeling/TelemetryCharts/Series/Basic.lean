import TelemetryCharts.Failure
import TelemetryCharts.Series.Markers
import TelemetryCharts.Series.Scale
import TelemetryCharts.Telemetry.Record

/-!
# Series

What a chart shows of a table: the moving average of the successes, the failures of all operations
together, and the markers of events. Everything is aligned with the rows of the table, apart from
the moving average, whose values stand at the last rows of their windows.
-/

namespace TelemetryCharts

/-- Values with the time steps at which they stand. -/
structure Smoothed (α : Type) where
  timeSteps : List α
  values : List α
  deriving DecidableEq, Repr

/-- Values paired with their time steps, for as long as there are both. -/
def Smoothed.points {α : Type} (s : Smoothed α) : List (α × α) :=
  s.timeSteps.zip s.values

/-- What a chart shows of a table. -/
structure Series (α : Type) where
  window : Nat
  timeSteps : List α
  average : Smoothed α
  failureTotal : List UInt64
  markers : Markers α

/-- The runs of `window` elements in a row. -/
def windows {α : Type} (window : Nat) : List α → List (List α)
  | [] => []
  | x :: xs =>
    if window ≤ xs.length + 1 then (x :: xs).take window :: windows window xs else []

section
variable {α : Type} [Scale α]

/-- The mean of each run of `window` values, each summed up by itself. -/
def means (window : Nat) (values : List α) : List α :=
  (windows window values).map fun run => Scale.sum run / Scale.ofNat window

/-- The moving average of values, where the mean of a window stands at its last time step. -/
def Smoothed.trailing (window : Nat) (timeSteps values : List α) : Smoothed α :=
  ⟨timeSteps.drop (window - 1), means window values⟩

/-- The failures of all operations together, for as long as there are counters of each kind. -/
def sumFailures? : List UInt64 → List UInt64 → List UInt64 → Option (List UInt64)
  | get :: gets, put :: puts, delete :: deletes => do
    let total ← sumCounters? get put delete
    return total :: (← sumFailures? gets puts deletes)
  | _, _, _ => some []

/-- The failures of all operations together. There have to be as many counters of each kind. -/
def failureTotals (get put delete : List UInt64) : Outcome (List UInt64) :=
  if get.length ≠ put.length ∨ get.length ≠ delete.length then
    fail (.lengthMismatch get.length put.length delete.length)
  else orOverflow (sumFailures? get put delete)

/-- The moving average of values, which needs a window of at least one. -/
def movingAverage (values : List α) (window : Nat) : Outcome (List α) :=
  if window = 0 then fail .windowOfZero else .ok (means window values)

/-- Failures paired with their time steps, for as long as there are both. -/
def Series.failurePoints (s : Series α) : List (α × α) :=
  s.timeSteps.zip (s.failureTotal.map Scale.ofCounter)

/-- The series of the columns of a table. -/
def Series.ofColumns (window : Nat) (timeSteps totalSucc : List α) (failureTotal : List UInt64)
    (markers : Markers α) : Series α :=
  ⟨window, timeSteps, .trailing window timeSteps totalSucc, failureTotal, markers⟩

end

end TelemetryCharts
