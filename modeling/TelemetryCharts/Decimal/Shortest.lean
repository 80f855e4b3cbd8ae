import TelemetryCharts.Decimal.Binary

/-!
# The shortest decimal of a double

Among the decimals that are read back as a given double, the shortest one is written. It lies on
the coarsest decimal grid that has a point in the interval of reals rounding to the double, and of
the two neighbours of the double on that grid it is the nearer one that lies in the interval.
-/

namespace TelemetryCharts.Decimal

/-- A decimal number `coefficient * 10 ^ exponent`. -/
structure Scientific where
  coefficient : Nat
  exponent : Int
  deriving DecidableEq, Repr

/-- The reals that round to a positive double, in quarters of its unit in the last place. The gap
below a power of two is half as wide, and the ends belong to the interval when the significand is
even. -/
structure Interval where
  low : Nat
  middle : Nat
  high : Nat
  closed : Bool
  exponent : Int

/-- The interval of reals that round to a positive double. -/
def Binary.interval (b : Binary) : Interval where
  low := 4 * b.significand - (if b.significand = Nat.pow 2 52 ∧ b.exponent ≠ -1074 then 1 else 2)
  middle := 4 * b.significand
  high := 4 * b.significand + 2
  closed := b.significand % 2 = 0
  exponent := b.exponent - 2

/-- Numerator and denominator of `2 ^ e / 10 ^ g`. -/
def gridRatio (e g : Int) : Nat × Nat :=
  (Nat.pow 2 e.toNat * Nat.pow 10 (-g).toNat, Nat.pow 2 (-e).toNat * Nat.pow 10 g.toNat)

/-- The point of the grid of multiples of `10 ^ g` that is nearest to the double, if one of the
double's two neighbours on that grid lies in the interval. Of two neighbours equally near the even
one is taken. -/
def Interval.onGrid? (i : Interval) (g : Int) : Option Nat :=
  let (num, den) := gridRatio i.exponent g
  let inside (n : Nat) : Bool :=
    if i.closed then i.low * num ≤ n * den && n * den ≤ i.high * num
    else i.low * num < n * den && n * den < i.high * num
  let below := i.middle * num / den
  let above := below + 1
  let downwards := i.middle * num - below * den
  let upwards := above * den - i.middle * num
  match inside below, inside above with
  | false, false => none
  | true, false => some below
  | false, true => some above
  | true, true =>
    if downwards < upwards then some below
    else if upwards < downwards then some above
    else if below % 2 = 0 then some below else some above

/-- The first hit on the grids of `10 ^ g`, `10 ^ (g - 1)`, and so on. -/
def Interval.search (i : Interval) : Nat → Int → Scientific
  | 0, g => ⟨0, g⟩
  | steps + 1, g =>
    match i.onGrid? g with
    | some n => ⟨n, g⟩
    | none => i.search steps (g - 1)

/-- The shortest decimal that is read back as a positive double. The search starts on a grid
coarser than the double itself, and a double is determined by seventeen digits. -/
def Binary.shortest (b : Binary) : Scientific :=
  let (num, den) := b.fraction
  let size (n : Nat) : Int := ((Nat.toDigits 10 n).length : Int)
  b.interval.search 24 (size num - size den + 1)

end TelemetryCharts.Decimal
