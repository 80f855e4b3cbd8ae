import TelemetryCharts.Series.Basic

/-!
# Axes

The ranges that the axes of a chart cover. The time axis extends a little beyond the time steps on
both sides, and the other axis goes from zero to a little beyond the greatest value drawn.
-/

namespace TelemetryCharts

/-- What an axis covers. -/
structure AxisRange (α : Type) where
  start : α
  stop : α
  deriving DecidableEq, Repr

namespace Series

variable {α : Type} [Scale α]

/-- The greatest of some numbers, the first of which is given apart. -/
def greatest (x : α) (xs : List α) : α :=
  (x :: xs).foldl Scale.greater (Scale.beneath x)

/-- The range from zero to one. -/
def unitRange : AxisRange α :=
  ⟨Scale.ofNat 0, Scale.ofNat 1⟩

/-- The range of the time axis. -/
def timeRange (s : Series α) : AxisRange α :=
  match s.timeSteps with
  | [] => unitRange
  | x :: xs =>
    let low := xs.foldl Scale.lesser x
    let high := greatest x xs
    let space := if Scale.isBelow low high then (high - low) * Scale.margin else Scale.half
    ⟨low - space, high + space⟩

/-- The range of the axis for numbers of operations. -/
def valueRange (s : Series α) : AxisRange α :=
  let values := s.average.values ++ s.failureTotal.map Scale.ofCounter
  let high := values.foldl Scale.greater (Scale.ofNat 0)
  if Scale.isBelow (Scale.ofNat 0) high then
    ⟨Scale.ofNat 0, high * (Scale.ofNat 1 + Scale.margin)⟩
  else unitRange

end Series

end TelemetryCharts
