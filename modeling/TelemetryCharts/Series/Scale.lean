/-!
# Numbers for charts

Series and axes are computed with few operations on numbers. They are named here, so that what
holds of charts can be stated for exact numbers as well as for doubles.
-/

namespace TelemetryCharts

/-- The operations that charts are computed with. -/
class Scale (α : Type) extends Add α, Sub α, Mul α, Div α where
  /-- A natural number. -/
  ofNat : Nat → α
  /-- The sum of no numbers. -/
  emptySum : α
  /-- The lesser of two numbers. -/
  lesser : α → α → α
  /-- The greater of two numbers. -/
  greater : α → α → α
  /-- Says whether one number is below another. -/
  isBelow : α → α → Bool
  /-- A number from which the search for the greatest of some numbers starts, where the given one
  is among them. -/
  beneath : α → α
  /-- The part of its length by which an axis is extended. -/
  margin : α
  /-- One half. -/
  half : α

/-- Doubles. NaN is neither the lesser nor the greater of two numbers where there is a choice, and
the sum of no numbers is the zero that changes no sign. -/
instance : Scale Float where
  ofNat := Float.ofNat
  emptySum := -0.0
  lesser a b := if a.isNaN then b else if b < a then b else a
  greater a b := if a.isNaN then b else if a < b then b else a
  isBelow a b := a < b
  beneath _ := -1 / 0
  margin := 0.03
  half := 0.5

/-- The sum of numbers from left to right. -/
def Scale.sum {α : Type} [Scale α] (xs : List α) : α :=
  xs.foldl (· + ·) emptySum

/-- The number that a counter stands for. -/
def Scale.ofCounter {α : Type} [Scale α] (n : UInt64) : α :=
  ofNat n.toNat

end TelemetryCharts
