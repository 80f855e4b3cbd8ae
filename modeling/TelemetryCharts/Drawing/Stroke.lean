import TelemetryCharts.Decimal.Digits

/-!
# Colours and strokes
-/

namespace TelemetryCharts

/-- A colour by its parts of red, green and blue. -/
structure Color where
  red : UInt8
  green : UInt8
  blue : UInt8
  deriving DecidableEq, Repr

namespace Color

def black : Color := ⟨0, 0, 0⟩
def white : Color := ⟨255, 255, 255⟩
def pureRed : Color := ⟨255, 0, 0⟩
def pureGreen : Color := ⟨0, 255, 0⟩

/-- The colour of the successes. -/
def success : Color := ⟨31, 119, 180⟩

/-- The colour of the failures. -/
def failure : Color := ⟨255, 127, 14⟩

/-- The two uppercase hexadecimal digits of a part. -/
def hexPart (part : UInt8) : List Char :=
  let ds := (Nat.toDigits 16 part.toNat).map Char.toUpper
  List.replicate (2 - ds.length) '0' ++ ds

/-- The name of a colour in a picture. -/
def hex (c : Color) : String :=
  String.ofList ('#' :: hexPart c.red ++ hexPart c.green ++ hexPart c.blue)

end Color

/-- How a line is drawn. The opacity is given in tenths. -/
structure Stroke where
  color : Color
  opacity : Nat
  width : Nat
  deriving DecidableEq, Repr

/-- The text of a number of tenths of up to one. -/
def tenths (n : Nat) : String :=
  if n = 10 then "1" else "0." ++ Decimal.text n

end TelemetryCharts
