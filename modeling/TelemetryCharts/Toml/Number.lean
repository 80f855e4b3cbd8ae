import TelemetryCharts.Decimal.Read
import TelemetryCharts.Json.Token
import TelemetryCharts.Toml.Scan
import TelemetryCharts.Toml.Value
import TelemetryCharts.Word

/-!
# Numbers and dates in TOML

Underscores may stand between digits. Integers are signed machine words, which may also be given in
hexadecimal, octal or binary digits, and floats are doubles. Dates and times have to exist, but
leap seconds are allowed at any time.
-/

namespace TelemetryCharts.Toml

/-- Takes digits with single underscores between them, and answers with the digits. -/
def digitRun (isDigit : Char → Bool) : Scan (List Char) := do
  let first ← Scan.satisfying isDigit
  let rest ← Scan.many ((Scan.satisfying isDigit) <|> do
    Scan.exactly ['_']
    Scan.satisfying isDigit)
  return first :: rest

/-- Takes a sign that may be missing. -/
def sign : Scan (List Char) := do
  return ((← Scan.maybe (Scan.satisfying fun c => c = '+' || c = '-')).map fun c => [c]).getD []

/-- Takes a decimal integer. Zeros at its start are not allowed. -/
def decimalText : Scan (List Char) := do
  let s ← sign
  let ds ← if (← Scan.peek?) = some '0' then do
      Scan.exactly ['0']
      pure ['0']
    else digitRun Char.isDigit
  return s ++ ds

/-- The integer, if it is a signed machine word. -/
def word (i : Int) : Scan Value :=
  return .integer (← (wordOfInt? i : Option Int64))

/-- Takes an integer whose digits follow a mark for their base. -/
def basedInteger (mark : Char) (base : Nat) : Scan Value := do
  Scan.exactly ['0', mark]
  let isDigit (c : Char) : Bool := (Json.hexDigit? c).any (· < base)
  let ds ← digitRun isDigit
  word ((ds.foldl (fun n d => base * n + (Json.hexDigit? d).getD 0) 0 : Nat) : Int)

/-- Takes an integer. -/
def integer : Scan Value :=
  basedInteger 'x' 16 <|> basedInteger 'o' 8 <|> basedInteger 'b' 2 <|> do
    let i ← (Decimal.integer? (← decimalText) : Option Int)
    word i

/-- Takes an exponent. -/
def exponent : Scan (List Char) := do
  let _ ← Scan.satisfying fun c => c = 'e' || c = 'E'
  let s ← sign
  return 'e' :: s ++ (← digitRun Char.isDigit)

/-- Takes a point and the digits after it. -/
def fraction : Scan (List Char) := do
  Scan.exactly ['.']
  return '.' :: (← digitRun Char.isDigit)

/-- Takes a number with a point or an exponent. It may be too small for a double but not too
great. -/
def decimalFloat : Scan Value := do
  let whole ← decimalText
  let rest ← exponent <|> do
    let f ← fraction
    return f ++ ((← Scan.maybe exponent).getD [])
  let x ← (Decimal.float? (whole ++ rest) : Option Float)
  Scan.ensure (!(x == 1 / 0))
  return .float x

/-- Takes the name of an infinity or a NaN. -/
def namedFloat : Scan Value := do
  let s ← sign
  let name ← (do Scan.exactly "inf".toList; return "inf".toList) <|>
    (do Scan.exactly "nan".toList; return "nan".toList)
  let x ← (Decimal.float? (s ++ name) : Option Float)
  return .float x

/-- Takes a float. -/
def float : Scan Value :=
  decimalFloat <|> namedFloat

/-- Takes a number of exactly `count` digits in a range. -/
def fixedNumber (count low high : Nat) : Scan Nat := do
  let ds := (← get).take count
  Scan.ensure (ds.length = count && ds.all Char.isDigit)
  set ((← get).drop count)
  let n := Decimal.value ds
  Scan.ensure (low ≤ n && n ≤ high)
  return n

/-- How many days a month has. -/
def daysIn (year month : Nat) : Nat :=
  if month = 2 then
    if year % 4 = 0 ∧ (year % 100 ≠ 0 ∨ year % 400 = 0) then 29 else 28
  else if month ∈ [4, 6, 9, 11] then 30 else 31

/-- Takes a date. -/
def date : Scan Unit := do
  let year ← fixedNumber 4 0 9999
  Scan.exactly ['-']
  let month ← fixedNumber 2 1 12
  Scan.exactly ['-']
  let _ ← fixedNumber 2 1 (daysIn year month)

/-- Takes a time of day. -/
def time : Scan Unit := do
  let _ ← fixedNumber 2 0 23
  Scan.exactly [':']
  let _ ← fixedNumber 2 0 59
  Scan.exactly [':']
  let _ ← fixedNumber 2 0 60
  let _ ← Scan.maybe (do
    Scan.exactly ['.']
    Scan.takeSome Char.isDigit)

/-- Takes an offset from universal time. -/
def offset : Scan Unit :=
  (do let _ ← Scan.satisfying fun c => c = 'Z' || c = 'z') <|> do
    let _ ← Scan.satisfying fun c => c = '+' || c = '-'
    let _ ← fixedNumber 2 0 23
    Scan.exactly [':']
    let _ ← fixedNumber 2 0 59

/-- Takes a date, a time, or both with or without an offset. -/
def datetime : Scan Value := do
  (do
    date
    let _ ← Scan.maybe (do
      let _ ← Scan.satisfying fun c => c = 'T' || c = 't' || c = ' '
      time
      let _ ← Scan.maybe offset)) <|> time
  return .datetime

/-- Takes a number or a date. -/
def number : Scan Value :=
  datetime <|> float <|> integer

end TelemetryCharts.Toml
