/-!
# Decimal digits

Natural numbers and integers as runs of decimal digits, and back.
-/

namespace TelemetryCharts.Decimal

/-- The decimal digits of a natural number, without leading zeros. Zero has one digit. -/
def digits (n : Nat) : List Char :=
  Nat.toDigits 10 n

/-- The decimal digits of an integer, after a minus sign if it is negative. -/
def signedDigits (i : Int) : List Char :=
  if i < 0 then '-' :: digits i.natAbs else digits i.natAbs

/-- The number that one digit stands for. -/
def digitValue (c : Char) : Nat :=
  c.toNat - '0'.toNat

/-- The number that a run of digits stands for. Leading zeros change nothing. -/
def value (ds : List Char) : Nat :=
  ds.foldl (fun n c => 10 * n + digitValue c) 0

/-- The number in a text that is nothing but digits, at least one of them. -/
def natural? (cs : List Char) : Option Nat :=
  if cs ≠ [] ∧ cs.all Char.isDigit then some (value cs) else none

/-- A sign at the start of a text, and what follows it. The answer says whether it is a minus; no
sign counts as a plus. -/
def splitSign : List Char → Bool × List Char
  | '-' :: cs => (true, cs)
  | '+' :: cs => (false, cs)
  | cs => (false, cs)

/-- The integer with a given sign and magnitude. -/
def signed (negative : Bool) (n : Nat) : Int :=
  if negative then -(n : Int) else n

/-- The integer in a text of digits that may begin with a sign. -/
def integer? (cs : List Char) : Option Int :=
  (natural? (splitSign cs).2).map (signed (splitSign cs).1)

/-- Text of a natural number. -/
def text (n : Nat) : String :=
  String.ofList (digits n)

end TelemetryCharts.Decimal
