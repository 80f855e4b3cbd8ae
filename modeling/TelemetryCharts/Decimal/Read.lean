import TelemetryCharts.Decimal.Digits

/-!
# Reading decimals

A decimal is a sign, digits that may have a point among them, and a power of ten. It is read as the
nearest double. Infinities and NaN are read by name in any case.
-/

namespace TelemetryCharts.Decimal

/-- The double nearest to `coefficient * 10 ^ exponent`. Far outside of the range of doubles the
answer is known without the powers being computed. -/
def nearest (coefficient : Nat) (exponent : Int) : Float :=
  let size : Int := ((digits coefficient).length : Int) + exponent
  if coefficient = 0 then 0
  else if 400 < size then 1 / 0
  else if size < -400 then 0
  else if 0 ≤ exponent then Float.ofScientific coefficient false exponent.toNat
  else Float.ofScientific coefficient true (-exponent).toNat

/-- A decimal without sign: digits with at most one point among them, at least one digit, then
possibly an exponent. -/
def unsigned? (cs : List Char) : Option Float :=
  let whole := cs.takeWhile Char.isDigit
  let afterWhole := cs.dropWhile Char.isDigit
  let (fraction, rest) := match afterWhole with
    | '.' :: tail => (tail.takeWhile Char.isDigit, tail.dropWhile Char.isDigit)
    | tail => ([], tail)
  if whole.isEmpty && fraction.isEmpty then none
  else
    let coefficient := value (whole ++ fraction)
    match rest with
    | [] => some (nearest coefficient (-(fraction.length : Int)))
    | c :: tail =>
      if c = 'e' ∨ c = 'E' then
        (integer? tail).map fun e => nearest coefficient (e - fraction.length)
      else none

/-- The values that have names: infinity in two spellings, and NaN. -/
def named? (cs : List Char) : Option Float :=
  let name := String.ofList (cs.map Char.toLower)
  if name = "nan" then some (0 / 0)
  else if name = "inf" ∨ name = "infinity" then some (1 / 0)
  else none

/-- The double that a text denotes as a whole, with a sign that may be missing. -/
def float? (cs : List Char) : Option Float :=
  let (negative, cs) := splitSign cs
  let magnitude? := (unsigned? cs).or (named? cs)
  magnitude?.map fun x => if negative then -x else x

end TelemetryCharts.Decimal
