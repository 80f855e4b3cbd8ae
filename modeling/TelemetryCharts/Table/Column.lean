import TelemetryCharts.Decimal.Numeral
import TelemetryCharts.Decimal.Read
import TelemetryCharts.Word

/-!
# Columns

The cells of a column have one type, and any of them may be missing. Casting a column to another
type loses the cells that have no value of that type.
-/

namespace TelemetryCharts

/-- The cells of a column. -/
inductive Column
  | text (cells : List (Option String))
  | integers (cells : List (Option Int64))
  | floats (cells : List (Option Float))
  | booleans (cells : List (Option Bool))
  | counters (cells : List (Option UInt64))

namespace Column

/-- How many cells a column has. -/
def length : Column → Nat
  | text cells => cells.length
  | integers cells => cells.length
  | floats cells => cells.length
  | booleans cells => cells.length
  | counters cells => cells.length

/-- The first `n` cells of a column. -/
def take (n : Nat) : Column → Column
  | text cells => text (cells.take n)
  | integers cells => integers (cells.take n)
  | floats cells => floats (cells.take n)
  | booleans cells => booleans (cells.take n)
  | counters cells => counters (cells.take n)

/-- The double that a text is the numeral of. -/
def floatOfText? (s : String) : Option Float :=
  Decimal.float? s.toList

/-- The counter with a given value. -/
def counterOfInt? (i : Int) : Option UInt64 :=
  if 0 ≤ i ∧ i < wordLimit then some (UInt64.ofNat i.toNat) else none

/-- The counter that a text is the numeral of. -/
def counterOfText? (s : String) : Option UInt64 :=
  (Decimal.integer? s.toList).bind counterOfInt?

/-- The counter that is left of a double when its fraction is dropped. -/
def counterOfFloat? (x : Float) : Option UInt64 :=
  if -1 < x ∧ x < 18446744073709551616 then some x.toUInt64 else none

/-- The cells as doubles. -/
def toFloats : Column → List (Option Float)
  | text cells => cells.map (·.bind floatOfText?)
  | integers cells => cells.map (·.map fun i => Float.ofInt i.toInt)
  | floats cells => cells
  | booleans cells => cells.map (·.map fun b => if b then 1 else 0)
  | counters cells => cells.map (·.map fun n => Float.ofNat n.toNat)

/-- The cells as counters. -/
def toCounters : Column → List (Option UInt64)
  | text cells => cells.map (·.bind counterOfText?)
  | integers cells => cells.map (·.bind fun i => counterOfInt? i.toInt)
  | floats cells => cells.map (·.bind counterOfFloat?)
  | booleans cells => cells.map (·.map fun b => if b then 1 else 0)
  | counters cells => cells

/-- The cells as text. -/
def toTexts : Column → List (Option String)
  | text cells => cells
  | integers cells => cells.map (·.map fun i => String.ofList (Decimal.signedDigits i.toInt))
  | floats cells => cells.map (·.map fun x => String.ofList (Decimal.tabular x))
  | booleans cells => cells.map (·.map fun b => if b then "true" else "false")
  | counters cells => cells.map (·.map fun n => String.ofList (Decimal.digits n.toNat))

end Column

end TelemetryCharts
