import Mathlib.Algebra.Group.Int.Defs
import Mathlib.Algebra.Group.Nat.Defs
import TelemetryCharts.Table.Column

/-!
# Machine words and their bounds

A number is read as a machine word if it lies within the bounds of such words, which are powers of
two.
-/

namespace TelemetryCharts

theorem wordOfInt?_eq (i : Int) :
    wordOfInt? i = if -2 ^ 63 ≤ i ∧ i < 2 ^ 63 then some (Int64.ofInt i) else none := by
  have hbounds : Int64.minValue.toInt ≤ i ∧ i ≤ Int64.maxValue.toInt ↔ -2 ^ 63 ≤ i ∧ i < 2 ^ 63 := by
    rw [Int64.toInt_minValue, Int64.toInt_maxValue]
    omega
  simp only [wordOfInt?, hbounds]

theorem wordOfInt?_toInt (i : Int64) : wordOfInt? i.toInt = some i := by
  rw [wordOfInt?_eq, if_pos ⟨i.le_toInt, i.toInt_lt⟩, Int64.ofInt_toInt]

theorem Column.counterOfInt?_natCast {n : Nat} (h : n < 2 ^ 64) :
    counterOfInt? n = some (UInt64.ofNat n) := by
  rw [counterOfInt?, if_pos ⟨Int.natCast_nonneg n, Int.ofNat_lt.2 h⟩, Int.toNat_natCast]

end TelemetryCharts
