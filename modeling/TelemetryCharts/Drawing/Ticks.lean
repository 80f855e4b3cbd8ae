/-!
# Marks on an axis

The marks on an axis are multiples of a step that is one, two or five times a power of ten. The step
is refined for as long as there are not too many marks.
-/

namespace TelemetryCharts

/-- The difference below which two numbers count as equal. -/
def tolerance : Float := 2.220446049250313e-16

/-- What is left of a number when a positive step has been taken off as often as possible. -/
def remainder (x step : Float) : Float :=
  let rest := x - (x / step).floor * step
  if (rest - step).abs < tolerance then 0 else rest

/-- The greatest multiple of a step up to a number. -/
def multipleBelow (x step : Float) : Float :=
  x - remainder x step

/-- The least multiple of a step from a number on. -/
def multipleAbove (x step : Float) : Float :=
  let below := multipleBelow x step
  if below < x then below + step else below

/-- How many multiples of the `parts`-th part of a step lie in a range. -/
def markCount (low high step parts : Float) : UInt64 :=
  let first := multipleAbove low (step / parts)
  let last := multipleBelow high (step / parts)
  (1 + (last - first) / step * parts).round.toUInt64

/-- The step after trying some of its parts in turn, and whether all of them would do. A part does
if there are at most `most` marks. -/
def tryParts (low high : Float) (most : UInt64) (step best : Float) : List Float → Float × Bool
  | [] => (best, true)
  | parts :: rest =>
    if most < markCount low high step parts then (best, false)
    else tryParts low high most step (step / parts) rest

/-- Refines a step until there would be too many marks, up to `rounds` times, together with the grid
on which the marks are kept. -/
def refine (low high : Float) (most : UInt64) : Nat → Float × Float → Float × Float
  | 0, state => state
  | rounds + 1, (step, grid) =>
    match tryParts low high most step step [2, 5, 10] with
    | (step, true) => refine low high most rounds (step, grid / 10)
    | (step, false) => (step, grid)

/-- Up to `count` marks from `relative` on, each `step` after the one before. -/
def marksFrom (base last step : Float) : Nat → Float → List Float
  | 0, _ => []
  | count + 1, relative =>
    if -tolerance ≤ last - relative - base then
      (relative + base) :: marksFrom base last step count (relative + step)
    else []

/-- The marks on an axis from `low` to `high`, of which there should be at most `most`. -/
def marks (low high : Float) (most : UInt64) : List Float :=
  if (low - high).abs < tolerance then [low]
  else
    let step := Float.pow 10 ((high - low).log / (10 : Float).log).floor
    let coarse := most < 1 + ((high - low) / step).floor.toUInt64
    let step := if coarse then step * 10 else step
    let (step, grid) := refine low high most 32 (step, step / 10)
    let first := multipleAbove low step
    let base := (first / grid).floor * grid
    marksFrom base (multipleBelow high step) step 64 (first - base)

end TelemetryCharts
