/-!
# Machine words

Counters, windows and rows are machine words without a sign, and other whole numbers are machine
words with one. A number that is read from a table, a document or a JSON text has to fit.
-/

namespace TelemetryCharts

/-- One more than the greatest machine word. -/
def wordLimit : Nat := UInt64.size

/-- The signed machine word with a value, if there is one. -/
def wordOfInt? (i : Int) : Option Int64 :=
  if Int64.minValue.toInt ≤ i ∧ i ≤ Int64.maxValue.toInt then some (Int64.ofInt i) else none

end TelemetryCharts
