import TelemetryCharts.Json.Value
import TelemetryCharts.Word

/-!
# Numbers in JSON

How numerals are read as integers and as doubles, and how numbers are written. A double is read
from the leading digits that fit into a machine word and a power of ten, in floating-point
arithmetic, so the last bit may differ from the nearest double.
-/

namespace TelemetryCharts.Json

open Decimal

/-- Takes digits for as long as the number that they form together with `n` is a machine word. The
answer is that number and the digits that are left. -/
def absorb (n : Nat) : List Char → Nat × List Char
  | [] => (n, [])
  | d :: ds =>
    if 10 * n + digitValue d < wordLimit then absorb (10 * n + digitValue d) ds else (n, d :: ds)

/-- A power of ten as a double. -/
def powerOfTen (n : Nat) : Float :=
  Float.ofScientific 1 false n

/-- The greatest power of ten that is a double. -/
def greatestPower : Nat := 308

/-- `x * 10 ^ exponent` in floating-point arithmetic, for an `x` that was a machine word. There is
no answer when the product is beyond the range of doubles. -/
def scale? (x : Float) (exponent : Int) : Option Float :=
  if x == 0 then some x
  else if (greatestPower : Int) < exponent then none
  else if 0 ≤ exponent then
    let y := x * powerOfTen exponent.toNat
    if y.isInf then none else some y
  else if -(greatestPower : Int) ≤ exponent then some (x / powerOfTen (-exponent).toNat)
  else if -(2 * greatestPower : Int) ≤ exponent then
    some (x / powerOfTen greatestPower / powerOfTen (-exponent - greatestPower).toNat)
  else some 0

/-- The double that a numeral is read as. -/
def double? (n : Numeral) : Option Float :=
  let (whole, wholeRest) := absorb 0 n.whole
  let (significand, fractionRest) := absorb whole n.fraction
  let used := n.fraction.length - fractionRest.length
  let exponent := (wholeRest.length : Int) - used + n.exponent.getD 0
  (scale? (Float.ofNat significand) exponent).map fun x => if n.negative then -x else x

/-- The integer that a numeral is read as. A numeral with a point or an exponent is none, and
neither is the negative zero. -/
def integer? (n : Numeral) : Option Int :=
  if !n.isWhole || (n.negative && value n.whole = 0) then none
  else some (signed n.negative (value n.whole))

/-- The natural number that a numeral is read as, if it is a machine word. -/
def word? (n : Numeral) : Option Nat := do
  let i ← integer? n
  if 0 ≤ i ∧ i < wordLimit then some i.toNat else none

/-- The value for a double. Infinities and NaN have no numeral and become `null`. -/
def ofFloat (x : Float) : Value :=
  match Numeral.ofFloat? x with
  | some n => .number n
  | none => .null

/-- The value for a natural number. -/
def ofNat (n : Nat) : Value :=
  .number (.ofNat n)

/-- The value for an integer. -/
def ofInt (i : Int) : Value :=
  .number (.ofInt i)

end TelemetryCharts.Json
