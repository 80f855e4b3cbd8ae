import Mathlib
import TelemetryCharts.Decimal.Binary

/-!
# Doubles and their bits

A double has an exact value if and only if it is finite, and that value has a significand of at
most fifty-three bits.
-/

namespace TelemetryCharts.Decimal

open Float.Model

/-- The significand of a double has at most fifty-three bits. -/
theorem Binary.significand_lt {x : Float} {b : Binary} (h : Binary.ofFloat? x = some b) :
    b.significand < 2 ^ 53 := by
  simp only [Binary.ofFloat?, Nat.pow_eq] at h
  split at h
  · cases h
  split at h <;>
  · cases h
    dsimp only
    omega

theorem toNat_unpackExponent (bits : BitVec Format.binary64.numBits) :
    (UnpackedFloat.unpackExponent bits).toNat = bits.toNat / 2 ^ 52 % 2 ^ 11 := by
  simp only [UnpackedFloat.unpackExponent, BitVec.toNat_cast, BitVec.extractLsb_toNat,
    Nat.shiftRight_eq_div_pow]

/-- Finite doubles are those whose exponent bits are not all set. -/
theorem isFinite_unpack (bits : BitVec Format.binary64.numBits) :
    (UnpackedFloat.unpack Format.binary64 bits).isFinite =
      decide (bits.toNat / 2 ^ 52 % 2 ^ 11 ≠ 2047) := by
  have hexponent : UnpackedFloat.unpackExponent bits = -1#_ ↔
      bits.toNat / 2 ^ 52 % 2 ^ 11 = 2047 := by
    rw [← toNat_unpackExponent, ← BitVec.toNat_inj]
    rfl
  unfold UnpackedFloat.unpack
  by_cases hbits : bits.toNat / 2 ^ 52 % 2 ^ 11 = 2047
  · simp only [hexponent.2 hbits, if_true, hbits]
    split <;> rfl
  · rw [if_neg (mt hexponent.1 hbits)]
    simp only [hbits, ne_eq, not_false_iff, decide_true]
    split
    · split <;> rfl
    · rfl

/-- A double has an exact value if and only if it is finite. -/
theorem Binary.ofFloat?_isSome (x : Float) : (Binary.ofFloat? x).isSome = x.isFinite := by
  have hfinite : x.isFinite = decide (x.toBits.toNat / 2 ^ 52 % 2 ^ 11 ≠ 2047) := isFinite_unpack _
  rw [hfinite]
  simp only [Binary.ofFloat?, Nat.pow_eq]
  split
  · next h =>
    rw [decide_eq_false (not_not_intro h)]
    rfl
  · next h =>
    rw [decide_eq_true h]
    split <;> rfl

end TelemetryCharts.Decimal
