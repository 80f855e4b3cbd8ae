import TelemetryCharts.Decimal.Digits
import TelemetryCharts.Decimal.Shortest

/-!
# Numerals

A numeral is a number as it is written: a sign, digits before and after the point, and possibly a
power of ten. The numeral of a double has the double's shortest digits. From one hundred-thousandth
up to ten to the sixteenth they stand in full, with at least one digit after the point, and outside
of that range with a power of ten.
-/

namespace TelemetryCharts.Decimal

/-- A written number. No digits in `fraction` means that there is no point, so a numeral with
neither fraction nor exponent is a whole number. -/
structure Numeral where
  negative : Bool
  whole : List Char
  fraction : List Char
  exponent : Option Int
  deriving DecidableEq, Repr

/-- Says whether a numeral is written without point and exponent. -/
def Numeral.isWhole (n : Numeral) : Bool :=
  n.fraction.isEmpty && n.exponent.isNone

/-- The numeral of a natural number. -/
def Numeral.ofNat (n : Nat) : Numeral :=
  ⟨false, digits n, [], none⟩

/-- The numeral of an integer. -/
def Numeral.ofInt (i : Int) : Numeral :=
  ⟨decide (i < 0), digits i.natAbs, [], none⟩

/-- The digits of a power of ten after its sign. `plus` is what marks a positive one. -/
def exponentText (plus : List Char) (exponent : Int) : List Char :=
  ['e'] ++ (if exponent < 0 then ['-'] else plus) ++ digits exponent.natAbs

/-- The text of a numeral. A positive exponent is marked with `plus`. -/
def Numeral.render (plus : List Char) (n : Numeral) : List Char :=
  (if n.negative then ['-'] else []) ++ n.whole ++
    (if n.fraction.isEmpty then [] else '.' :: n.fraction) ++
    n.exponent.elim [] (exponentText plus)

/-- Digits with the point after the first `point` of them, which may lie outside of the digits. -/
def positional (negative : Bool) (ds : List Char) (point : Int) : Numeral :=
  if point ≤ 0 then ⟨negative, ['0'], List.replicate (-point).toNat '0' ++ ds, none⟩
  else if (ds.length : Int) ≤ point then
    ⟨negative, ds ++ List.replicate (point - ds.length).toNat '0', ['0'], none⟩
  else ⟨negative, ds.take point.toNat, ds.drop point.toNat, none⟩

/-- The numeral of a positive decimal, in full or with an exponent, whichever its size asks for. -/
def Scientific.numeral (negative : Bool) (s : Scientific) : Numeral :=
  let ds := digits s.coefficient
  let point := (ds.length : Int) + s.exponent
  if -5 < point ∧ point ≤ 16 then positional negative ds point
  else ⟨negative, ds.take 1, ds.drop 1, some (point - 1)⟩

/-- The numeral of a finite double. -/
def Binary.numeral (b : Binary) : Numeral :=
  if b.significand = 0 then ⟨b.negative, ['0'], ['0'], none⟩
  else b.shortest.numeral b.negative

/-- The numeral of a double, or `none` for an infinity or a NaN. -/
def Numeral.ofFloat? (x : Float) : Option Numeral :=
  (Binary.ofFloat? x).map Binary.numeral

/-- The name of a double that has no numeral. -/
def nonFiniteName (x : Float) : List Char :=
  if x.isNaN then ['N', 'a', 'N'] else if x < 0 then ['-', 'i', 'n', 'f'] else ['i', 'n', 'f']

/-- The text of a double in a table: its numeral without a mark on positive exponents, or a name
where it has none. -/
def tabular (x : Float) : List Char :=
  match Numeral.ofFloat? x with
  | some n => n.render []
  | none => nonFiniteName x

/-- The text of a double rounded to a whole number, a half going to the even neighbour. -/
def rounded (x : Float) : List Char :=
  match Binary.ofFloat? x with
  | some b => (if b.negative then ['-'] else []) ++ digits b.nearestWhole
  | none => nonFiniteName x

end TelemetryCharts.Decimal
