/-!
# Doubles as exact dyadic numbers

A finite double is a sign, a whole significand and a power of two. Printing works on that form, in
exact arithmetic.
-/

namespace TelemetryCharts.Decimal

/-- A finite double: `significand * 2 ^ exponent`, with the sign apart so that both zeros have a
form of their own. -/
structure Binary where
  negative : Bool
  significand : Nat
  exponent : Int
  deriving DecidableEq, Repr

/-- The exact value of a double, or `none` for an infinity or a NaN. -/
def Binary.ofFloat? (x : Float) : Option Binary :=
  let bits := x.toBits.toNat
  let fraction : Nat := bits % Nat.pow 2 52
  let biased : Nat := bits / Nat.pow 2 52 % Nat.pow 2 11
  let negative := Nat.pow 2 63 ≤ bits
  if biased = 2047 then none
  else if biased = 0 then some ⟨negative, fraction, -1074⟩
  else some ⟨negative, Nat.pow 2 52 + fraction, (biased : Int) - 1075⟩

/-- The magnitude as a fraction of natural numbers. -/
def Binary.fraction (b : Binary) : Nat × Nat :=
  (b.significand * Nat.pow 2 b.exponent.toNat, Nat.pow 2 (-b.exponent).toNat)

/-- The whole number nearest to the magnitude of a double. A magnitude halfway between two whole
numbers goes to the even one. -/
def Binary.nearestWhole (b : Binary) : Nat :=
  if 0 ≤ b.exponent then b.significand * Nat.pow 2 b.exponent.toNat
  else
    let unit := Nat.pow 2 (-b.exponent).toNat
    let below := b.significand / unit
    let rest := 2 * (b.significand % unit)
    if rest < unit then below
    else if unit < rest then below + 1
    else if below % 2 = 0 then below else below + 1

end TelemetryCharts.Decimal
