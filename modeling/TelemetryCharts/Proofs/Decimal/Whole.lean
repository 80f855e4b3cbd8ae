import Mathlib
import TelemetryCharts.Proofs.Decimal.Digits
import TelemetryCharts.Proofs.Words

/-!
# Whole numbers as doubles

Whole numbers up to `2 ^ 53` are doubles, so nothing is lost when one is read as a double: what is
left of the double as a counter is the number itself. The proofs follow a number through the model
of floating-point arithmetic, where a positive whole number has its digits at the top of the
significand.
-/

namespace TelemetryCharts.Decimal

open Float.Model UnpackedFloat

theorem log2_mul_two_pow {n : Nat} (hn : n ≠ 0) (k : Nat) : (n * 2 ^ k).log2 = n.log2 + k := by
  induction k with
  | zero => simp
  | succ k ih =>
    rw [Nat.pow_succ, ← Nat.mul_assoc, Nat.mul_comm, Nat.log2_two_mul (by positivity), ih,
      Nat.add_assoc]

section Rounding

/-- Shifting out zeros leaves nothing to round. -/
theorem shiftRight_exact (m k : Nat) :
    ExtendedMantissa.ofMantissaAndAccuracy (m * 2 ^ k) .exact >>> k = ⟨m, false, false⟩ := by
  change k.repeat ExtendedMantissa.shiftRightOne ⟨m * 2 ^ k, false, false⟩ = _
  induction k generalizing m with
  | zero => simp [Nat.repeat]
  | succ k ih =>
    rw [Nat.pow_succ, Nat.mul_comm (2 ^ k), ← Nat.mul_assoc, Nat.repeat, ih (m * 2)]
    simp [ExtendedMantissa.shiftRightOne]

variable {m : Nat} (hm : m.log2 = 52) {e : Int} (hlow : -1074 ≤ e)
include hm hlow

theorem shiftToTargetExponent_exact (k : Nat) :
    shiftToTargetExponent Format.binary64 (m * 2 ^ k) (e - k) .exact = (⟨m, false, false⟩, e) := by
  have hne : m ≠ 0 := by
    rintro rfl
    simp at hm
  have htarget : Format.binary64.targetExponent (totalExponent (m * 2 ^ k) (e - k)) = e := by
    simp only [Format.targetExponent, totalExponent, Format.mantissaBits, Format.minExponent,
      log2_mul_two_pow hne, hm]
    omega
  have hshift : (e - (e - k)).toNat = k := by omega
  rw [shiftToTargetExponent, htarget]
  simp only [shiftToExponent, hshift, shiftRight_exact]
  congr 1
  omega

/-- A significand of full length is only freed of the zeros at its end. -/
theorem roundWithAccuracy_exact (s : Sign) (hpos : 0 < m) (k : Nat) :
    roundWithAccuracy Format.binary64 s (m * 2 ^ k) (e - k) .exact = .finite s m e hpos := by
  have hagain := shiftToTargetExponent_exact hm hlow 0
  simp only [Nat.pow_zero, Nat.mul_one, Int.natCast_zero, Int.sub_zero] at hagain
  rw [roundWithAccuracy, shiftToTargetExponent_exact hm hlow k]
  simp only [ExtendedMantissa.roundedMantissa, ExtendedMantissa.accuracy,
    Accuracy.roundToNearestEven, hagain]
  rw [dif_neg (by omega)]

end Rounding

section Bits

theorem unpackSign_packComponents {spec : Float.Model.Format} (s : Sign) (e : BitVec spec.exponentBits)
    (m : BitVec spec.mantissaBitsWithoutImplicit) :
    unpackSign (packComponents spec s e m) = s.toBitVec := by
  apply BitVec.eq_of_getLsbD_eq
  intro i hi
  obtain rfl : i = 0 := by omega
  simp [unpackSign, packComponents, BitVec.getLsbD_append, BitVec.getElem_append]

/-- A significand of full length is kept in the bits of a double. -/
theorem unpack_pack (s : Sign) {m : Nat} (hm : m.log2 = 52) (hpos : 0 < m) {e : Int}
    (hlow : -1074 ≤ e) (hhigh : e ≤ 971) :
    UnpackedFloat.unpack Format.binary64 (UnpackedFloat.pack Format.binary64 (.finite s m e hpos)) =
      .finite s m e hpos := by
  obtain ⟨hmlow, hmhigh⟩ := (Nat.log2_eq_iff (by omega)).1 hm
  have hpack : UnpackedFloat.pack Format.binary64 (.finite s m e hpos) =
      packComponents Format.binary64 s (BitVec.ofNat 11 (e + 1075).toNat) (BitVec.ofNat 52 m) := by
    have hbias : (e + (Format.binary64.exponentBias : Int) + (52 : Nat)).toNat =
        (e + 1075).toNat := by
      simp only [Format.exponentBias]
      omega
    simp only [UnpackedFloat.pack, hbias, hm]
    rw [if_neg (by omega)]
    rfl
  have hexponent : (BitVec.ofNat 11 (e + 1075).toNat).toNat = (e + 1075).toNat := by
    rw [BitVec.toNat_ofNat, Nat.mod_eq_of_lt (by omega)]
  have hones : BitVec.ofNat 11 (e + 1075).toNat ≠ -1#11 := by
    intro h
    rw [← BitVec.toNat_inj, hexponent] at h
    have hall : (-1#11).toNat = 2047 := rfl
    omega
  have hzero : BitVec.ofNat 11 (e + 1075).toNat ≠ 0#11 := by
    intro h
    rw [← BitVec.toNat_inj, hexponent, BitVec.toNat_zero] at h
    omega
  have hmantissa : (1#1 ++ BitVec.ofNat 52 m).toNat = m := by
    rw [BitVec.toNat_append, ← Nat.shiftLeft_add_eq_or_of_lt (BitVec.ofNat 52 m).isLt,
      BitVec.toNat_ofNat, BitVec.toNat_ofNat, Nat.shiftLeft_eq]
    omega
  have hsign : Sign.ofBitVec s.toBitVec = s := by cases s <;> rfl
  have hback : ((e + 1075).toNat : Int) - ((Format.binary64.exponentBias : Int) + (52 : Nat)) =
      e := by
    simp only [Format.exponentBias]
    omega
  rw [hpack]
  unfold UnpackedFloat.unpack
  simp only [unpackMantissa_packComponents, unpackExponent_packComponents,
    unpackSign_packComponents, hsign, hexponent, hback, hmantissa]
  rw [if_neg hones, if_neg hzero]

theorem float_lt_iff (x y : Float) : x < y ↔ x.toModel.unpack.lt y.toModel.unpack = true := by
  show decide (x.toModel < y.toModel) = true ↔ _
  rw [decide_eq_true_iff]
  rfl

theorem unpack_neg_one :
    (-1 : Float).toModel.unpack = .finite .negative (2 ^ 52) (-52) (by decide) :=
  rfl

theorem unpack_counterLimit :
    (18446744073709551616 : Float).toModel.unpack = .finite .positive (2 ^ 52) 12 (by decide) :=
  rfl

end Bits

/-- The form that a positive whole number below `2 ^ 53` has as a double. -/
def wholeForm (s : Sign) (n : Nat) (hn : 0 < n) : UnpackedFloat :=
  .finite s (n * 2 ^ (52 - n.log2)) (n.log2 - 52) (Nat.mul_pos hn (Nat.two_pow_pos _))

section Form
variable (s : Sign) {n : Nat} (hpos : 0 < n) (hlt : n < 2 ^ 53)
include hlt

include hpos in
theorem log2_lt_of_lt : n.log2 < 53 :=
  (Nat.log2_lt (by omega)).2 hlt

include hpos in
theorem log2_wholeMantissa : (n * 2 ^ (52 - n.log2)).log2 = 52 := by
  have hlog := log2_lt_of_lt hpos hlt
  rw [log2_mul_two_pow (by omega)]
  omega

theorem roundWithAccuracy_whole (k : Nat) :
    roundWithAccuracy Format.binary64 s (n * 2 ^ (52 - n.log2) * 2 ^ k) ((n.log2 : Int) - 52 - k)
      .exact = wholeForm s n hpos :=
  roundWithAccuracy_exact (log2_wholeMantissa hpos hlt) (by omega) s
    (Nat.mul_pos hpos (Nat.two_pow_pos _)) k

theorem round_whole : UnpackedFloat.round Format.binary64 s n 0 = wholeForm s n hpos := by
  have hlog := log2_lt_of_lt hpos hlt
  have htarget : Format.binary64.targetExponent (totalExponent n 0) = (n.log2 : Int) - 52 := by
    simp only [Format.targetExponent, totalExponent, Format.mantissaBits, Format.minExponent]
    omega
  have hshift : (0 - ((n.log2 : Int) - 52)).toNat = 52 - n.log2 := by omega
  have hexponent : (0 : Int) - (52 - n.log2 : Nat) = (n.log2 : Int) - 52 := by omega
  have hexact := roundWithAccuracy_whole s hpos hlt 0
  rw [Nat.pow_zero, Nat.mul_one, Int.natCast_zero, Int.sub_zero] at hexact
  rw [UnpackedFloat.round, htarget, decreaseExponent, hshift, Nat.shiftLeft_eq]
  dsimp only
  rw [hexponent, hexact]

theorem unpack_pack_whole : (Float.Model.pack (wholeForm s n hpos)).unpack = wholeForm s n hpos := by
  have hlog := log2_lt_of_lt hpos hlt
  exact unpack_pack s (log2_wholeMantissa hpos hlt) _ (by omega) (by omega)

theorem unpack_ofNat : (Float.Model.ofNat n).unpack = wholeForm .positive n hpos := by
  have hround : UnpackedFloat.ofNat Format.binary64 n = wholeForm .positive n hpos := by
    rw [UnpackedFloat.ofNat, UnpackedFloat.ofInt, UnpackedFloat.normalize,
      Int.compare_eq_gt.2 (by omega)]
    exact round_whole .positive hpos hlt
  rw [Float.Model.ofNat, hround, unpack_pack_whole .positive hpos hlt]

/-- Multiplying by one changes nothing. -/
theorem mul_one_whole :
    UnpackedFloat.mul Format.binary64 (wholeForm s n hpos)
      (.finite .positive (2 ^ 52) (-52) (by decide)) = wholeForm s n hpos := by
  have hsign : s * Sign.positive = s := by cases s <;> rfl
  have hexact := roundWithAccuracy_whole s hpos hlt 52
  rw [wholeForm, UnpackedFloat.mul, hsign]
  exact hexact

theorem unpack_ofScientific :
    (Float.ofScientific n false 0).toModel.unpack = wholeForm .positive n hpos := by
  have hone : (getElem Float.exactlyRepresentablePowersOfTen 0 (by decide)).toModel.unpack =
      .finite .positive (2 ^ 52) (-52) (by decide) := rfl
  have hword : n.toUInt64.toNat = n := by
    rw [Nat.toUInt64, UInt64.toNat_ofNat']
    omega
  have hfloat : n.toUInt64.toFloat.toModel = Float.Model.ofNat n := by
    show Float.Model.ofUInt64 n.toUInt64 = _
    rw [Float.Model.ofUInt64, UnpackedFloat.ofUInt64, hword, Float.Model.ofNat]
  rw [Float.ofScientific, dif_pos ⟨hlt, by decide⟩]
  dsimp only
  rw [if_neg (by decide)]
  show (Float.Model.mul n.toUInt64.toFloat.toModel _).unpack = _
  rw [Float.Model.mul, hone, hfloat, unpack_ofNat hpos hlt, mul_one_whole .positive hpos hlt,
    unpack_pack_whole .positive hpos hlt]

theorem toInt_whole (low high : Int) : (wholeForm .positive n hpos).toInt low high = n := by
  have hlog := log2_lt_of_lt hpos hlt
  have hup : ((n.log2 : Int) - 52 - 0).toNat = 0 := by omega
  have hdown : (0 - ((n.log2 : Int) - 52 - 0)).toNat = 52 - n.log2 := by omega
  rw [wholeForm, UnpackedFloat.toInt, roundToInt, decreaseExponent, hup]
  simp only [Nat.shiftLeft_zero, Int.natCast_zero, Int.sub_zero] at hdown ⊢
  rw [shiftToExponent, hdown, shiftRight_exact]
  rfl

end Form

/-- No negative whole number lies above minus one. -/
theorem not_lt_neg_one_whole {n : Nat} (hpos : 0 < n) :
    UnpackedFloat.lt (.finite .negative (2 ^ 52) (-52) (by decide)) (wholeForm .negative n hpos) =
      false := by
  rw [UnpackedFloat.lt, wholeForm, UnpackedFloat.compare]
  rcases Nat.eq_zero_or_pos n.log2 with hzero | hlog
  · have hexponent : compare (-52 : Int) ((n.log2 : Int) - 52) = .eq := by
      rw [hzero]
      rfl
    have hmantissa : compare (2 ^ 52) (n * 2 ^ (52 - n.log2)) ≠ .gt := by
      rw [hzero, Ne, Nat.compare_eq_gt]
      omega
    rw [hexponent, Ordering.then]
    cases h : compare (2 ^ 52) (n * 2 ^ (52 - n.log2)) <;> simp_all
  · rw [Int.compare_eq_lt.2 (by omega)]
    rfl

section
variable {x : Float} {n : Nat} {hpos : 0 < n} (hlt : n < 2 ^ 53)
  (hx : x.toModel.unpack = wholeForm .positive n hpos)
include hlt hx

theorem counterOfFloat?_whole : Column.counterOfFloat? x = some (UInt64.ofNat n) := by
  have hlog := log2_lt_of_lt hpos hlt
  have hlow : (-1 : Float) < x := by
    rw [float_lt_iff, unpack_neg_one, hx]
    rfl
  have hhigh : x < (18446744073709551616 : Float) := by
    rw [float_lt_iff, unpack_counterLimit, hx, wholeForm, UnpackedFloat.lt, UnpackedFloat.compare,
      Int.compare_eq_lt.2 (by omega)]
    rfl
  have hvalue : x.toUInt64 = UInt64.ofNat n := by
    show x.toModel.unpack.toUInt64 = _
    rw [hx, UnpackedFloat.toUInt64, toInt_whole hpos hlt, Int.toNat_natCast]
    exact UInt64.ofNatClamp_eq_ofNat n (hlt.trans (by decide))
  rw [Column.counterOfFloat?, if_pos ⟨hlow, hhigh⟩, hvalue]

theorem counterOfFloat?_neg_whole : Column.counterOfFloat? (-x) = none := by
  have hneg : (-x).toModel.unpack = wholeForm .negative n hpos := by
    show (Float.Model.neg x.toModel).unpack = _
    rw [Float.Model.neg, hx]
    exact unpack_pack_whole .negative hpos hlt
  have hlow : ¬ (-1 : Float) < -x := by
    rw [float_lt_iff, unpack_neg_one, hneg, not_lt_neg_one_whole]
    simp
  rw [Column.counterOfFloat?, if_neg fun h => hlow h.1]

end

section
variable {n : Nat} (hle : n ≤ 2 ^ 53)
include hle

theorem nearest_whole (hpos : 0 < n) : nearest n 0 = Float.ofScientific n false 0 := by
  have hlength : (digits n).length ≤ 17 :=
    (Nat.length_toDigits_le_iff (by decide) (by decide)).2 (by omega)
  rw [nearest, if_neg (by omega), if_neg (by omega), if_neg (by omega), if_pos (by omega)]
  rfl

theorem counterOfFloat?_nearest : Column.counterOfFloat? (nearest n 0) = some (UInt64.ofNat n) := by
  rcases Nat.eq_zero_or_pos n with rfl | hpos
  · decide +kernel
  rcases Nat.lt_or_eq_of_le hle with hlt | rfl
  · rw [nearest_whole hle hpos]
    exact counterOfFloat?_whole hlt (unpack_ofScientific hpos hlt)
  · decide +kernel

theorem counterOfFloat?_neg_nearest (hpos : 0 < n) :
    Column.counterOfFloat? (-nearest n 0) = none := by
  rcases Nat.lt_or_eq_of_le hle with hlt | rfl
  · rw [nearest_whole hle hpos]
    exact counterOfFloat?_neg_whole hlt (unpack_ofScientific hpos hlt)
  · decide +kernel

/-- With either sign, a whole number counts the same as a double and as an integer. The negative
zero is a double of its own, but it counts nothing either. -/
theorem counterOfFloat?_signed (negative : Bool) :
    Column.counterOfFloat? (if negative then -nearest n 0 else nearest n 0) =
      Column.counterOfInt? (signed negative n) := by
  cases negative with
  | false =>
    rw [if_neg (by decide), counterOfFloat?_nearest hle, signed, if_neg (by decide),
      Column.counterOfInt?_natCast (by omega)]
  | true =>
    rw [if_pos rfl, signed, if_pos rfl]
    rcases Nat.eq_zero_or_pos n with rfl | hpos
    · decide +kernel
    · rw [counterOfFloat?_neg_nearest hle hpos, Column.counterOfInt?, if_neg (by omega)]

end

/-- The text of an integer is read as a double as well. -/
theorem float?_of_integer? {cs : List Char} {i : Int} (h : integer? cs = some i) :
    ∃ negative n, i = signed negative n ∧
      float? cs = some (if negative then -nearest n 0 else nearest n 0) := by
  rw [integer?] at h
  obtain ⟨n, hn, rfl⟩ := Option.map_eq_some_iff.1 h
  refine ⟨(splitSign cs).1, n, rfl, ?_⟩
  rw [natural?] at hn
  split at hn
  · next hdigits =>
    obtain ⟨hne, hall⟩ := hdigits
    cases hn
    have htake : (splitSign cs).2.takeWhile Char.isDigit = (splitSign cs).2 :=
      List.takeWhile_eq_self_iff.2 (List.all_eq_true.1 hall)
    have hdrop : (splitSign cs).2.dropWhile Char.isDigit = [] :=
      List.dropWhile_eq_nil_iff.2 (List.all_eq_true.1 hall)
    have hunsigned : unsigned? (splitSign cs).2 = some (nearest (value (splitSign cs).2) 0) := by
      simp [unsigned?, htake, hdrop, hne]
    simp only [float?, hunsigned, Option.some_or, Option.map_some]
  · cases hn

/-- An integer that is small enough counts the same if its text is read as a double. -/
theorem counterOfFloat?_of_integer? {cs : List Char} {i : Int} (h : integer? cs = some i)
    (hi : i.natAbs ≤ 2 ^ 53) :
    ∃ x, float? cs = some x ∧ Column.counterOfFloat? x = Column.counterOfInt? i := by
  obtain ⟨negative, n, rfl, hfloat⟩ := float?_of_integer? h
  have hle : n ≤ 2 ^ 53 := by
    rw [signed] at hi
    split at hi <;> omega
  exact ⟨_, hfloat, counterOfFloat?_signed hle negative⟩

end TelemetryCharts.Decimal
