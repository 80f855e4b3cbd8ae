import Mathlib.Algebra.Order.Field.Power
import Mathlib.Data.Rat.Cast.Order
import Mathlib.Tactic.FieldSimp
import Mathlib.Tactic.NormNum
import Mathlib.Tactic.Positivity
import TelemetryCharts.Proofs.Decimal.Doubles

/-!
# The search for the shortest decimal

The search for the shortest decimal of a double comes to an end at a decimal that is not zero: the
last of its grids is so fine that one of its points lies next to the double. So the numeral of a
double has no leading zeros but the one before a point.
-/

namespace TelemetryCharts.Decimal

theorem zpow_eq_div (r : ℚ) (z : ℤ) : r ^ z = r ^ z.toNat / r ^ (-z).toNat := by
  cases z with
  | ofNat n => simp
  | negSucc n => simp [zpow_negSucc, Int.neg_negSucc]

theorem gridRatio_eq (e g : ℤ) :
    gridRatio e g = (2 ^ e.toNat * 10 ^ (-g).toNat, 2 ^ (-e).toNat * 10 ^ g.toNat) :=
  rfl

/-- The numerator of a grid ratio is the greater one if the grid is finer than the power of two. -/
theorem gridRatio_le {e g : ℤ} (h : (10 : ℚ) ^ g ≤ 2 ^ e) :
    (gridRatio e g).2 ≤ (gridRatio e g).1 := by
  rw [zpow_eq_div, zpow_eq_div, div_le_div_iff₀ (by positivity) (by positivity)] at h
  have hcast : ((10 ^ g.toNat * 2 ^ (-e).toNat : ℕ) : ℚ) ≤ ((2 ^ e.toNat * 10 ^ (-g).toNat : ℕ) : ℚ) := by
    push_cast
    exact h
  rw [gridRatio_eq, Nat.mul_comm (2 ^ (-e).toNat)]
  exact Nat.cast_le.1 hcast

theorem gridRatio_pos (e g : ℤ) : 0 < (gridRatio e g).1 ∧ 0 < (gridRatio e g).2 := by
  rw [gridRatio_eq]
  constructor <;> positivity

/-- Says that an interval lies above zero and that its middle lies inside of it. -/
structure Interval.Proper (i : Interval) : Prop where
  low_pos : 0 < i.low
  low_lt : i.low < i.middle
  lt_high : i.middle < i.high

/-- Says whether a point of a grid lies in an interval, with both scaled by the grid ratio. -/
def Interval.holds (i : Interval) (ratio : ℕ × ℕ) (n : ℕ) : Bool :=
  if i.closed then i.low * ratio.1 ≤ n * ratio.2 && n * ratio.2 ≤ i.high * ratio.1
  else i.low * ratio.1 < n * ratio.2 && n * ratio.2 < i.high * ratio.1

/-- What lies inside of an interval belongs to it, whether or not the ends do. -/
theorem Interval.holds_of_lt {i : Interval} {ratio : ℕ × ℕ} {n : ℕ}
    (hlow : i.low * ratio.1 < n * ratio.2) (hhigh : n * ratio.2 < i.high * ratio.1) :
    i.holds ratio n = true := by
  unfold Interval.holds
  split <;> (simp only [Bool.and_eq_true, decide_eq_true_eq]; omega)

/-- A point of a grid that lies in a proper interval is not zero. -/
theorem Interval.Proper.pos_of_holds {i : Interval} (h : i.Proper) {ratio : ℕ × ℕ}
    (hratio : 0 < ratio.1) {n : ℕ} (hn : i.holds ratio n = true) : 0 < n := by
  have hlow : 0 < i.low * ratio.1 := Nat.mul_pos h.low_pos hratio
  rw [Nat.pos_iff_ne_zero]
  rintro rfl
  unfold Interval.holds at hn
  split at hn <;> simp only [Bool.and_eq_true, decide_eq_true_eq, Nat.zero_mul] at hn <;> omega

/-- On every grid the answer is one of the two neighbours of the double, and one that the interval
holds. -/
theorem Interval.onGrid?_cases (i : Interval) (g : ℤ) :
    (i.holds (gridRatio i.exponent g)
        (i.middle * (gridRatio i.exponent g).1 / (gridRatio i.exponent g).2) = false ∧
        i.onGrid? g = none) ∨
      ∃ n, i.holds (gridRatio i.exponent g) n = true ∧ i.onGrid? g = some n := by
  unfold Interval.onGrid?
  generalize gridRatio i.exponent g = ratio
  obtain ⟨num, den⟩ := ratio
  dsimp only
  split
  · next hbelow _ => exact .inl ⟨hbelow, rfl⟩
  · next hbelow _ => exact .inr ⟨_, hbelow, rfl⟩
  · next habove => exact .inr ⟨_, habove, rfl⟩
  · next hbelow habove =>
    right
    split
    · exact ⟨_, hbelow, rfl⟩
    split
    · exact ⟨_, habove, rfl⟩
    split
    · exact ⟨_, hbelow, rfl⟩
    · exact ⟨_, habove, rfl⟩

theorem Interval.Proper.onGrid?_pos {i : Interval} (h : i.Proper) {g : ℤ} {n : ℕ}
    (hn : i.onGrid? g = some n) : 0 < n := by
  obtain ⟨-, hnone⟩ | ⟨m, hholds, hsome⟩ := i.onGrid?_cases g
  · cases hnone.symm.trans hn
  · cases hsome.symm.trans hn
    exact h.pos_of_holds (gridRatio_pos i.exponent g).1 hholds

/-- A fine grid has a point in the interval: the last one below the middle. -/
theorem Interval.Proper.onGrid?_ne_none {i : Interval} (h : i.Proper) {g : ℤ}
    (hfine : (gridRatio i.exponent g).2 ≤ (gridRatio i.exponent g).1) : i.onGrid? g ≠ none := by
  obtain ⟨hnum, hden⟩ := gridRatio_pos i.exponent g
  obtain ⟨hfails, -⟩ | ⟨n, -, hsome⟩ := i.onGrid?_cases g
  · generalize gridRatio i.exponent g = ratio at hfine hnum hden hfails
    have hbelow := Nat.div_mul_le_self (i.middle * ratio.1) ratio.2
    have hclose := Nat.lt_div_mul_add hden (a := i.middle * ratio.1)
    have hlow : i.low * ratio.1 + ratio.1 ≤ i.middle * ratio.1 := by
      have hmul := Nat.mul_le_mul_right ratio.1 (Nat.succ_le_of_lt h.low_lt)
      rwa [Nat.succ_mul] at hmul
    have hhigh : i.middle * ratio.1 < i.high * ratio.1 := Nat.mul_lt_mul_of_pos_right h.lt_high hnum
    have hholds : i.holds ratio (i.middle * ratio.1 / ratio.2) = true :=
      Interval.holds_of_lt (by omega) (by omega)
    cases hholds.symm.trans hfails
  · simp [hsome]

theorem Interval.Proper.search_pos {i : Interval} (h : i.Proper) {steps : ℕ} {g : ℤ} {k : ℕ}
    (hk : k < steps) (hhit : i.onGrid? (g - k) ≠ none) : 0 < (i.search steps g).coefficient := by
  induction steps generalizing g k with
  | zero => omega
  | succ steps ih =>
    rw [Interval.search]
    cases hgrid : i.onGrid? g with
    | some n => exact h.onGrid?_pos hgrid
    | none =>
      cases k with
      | zero => exact absurd hgrid (by simpa using hhit)
      | succ k =>
        refine ih (k := k) (by omega) ?_
        rwa [Int.sub_sub, Int.add_comm 1, ← Int.natCast_succ]

theorem Binary.interval_proper {b : Binary} (hb : 0 < b.significand) : b.interval.Proper := by
  refine ⟨?_, ?_, ?_⟩ <;> simp only [Binary.interval] <;> (try split) <;> omega

/-- A number has at least as many digits as its size asks for. -/
theorem lt_pow_length_digits (n : ℕ) : n < 10 ^ (digits n).length :=
  (Nat.length_toDigits_le_iff (by decide) Nat.length_toDigits_pos).1 (Nat.le_refl _)

/-- A number has no more digits than its size asks for. -/
theorem pow_length_digits_le {n : ℕ} (hn : 0 < n) : 10 ^ ((digits n).length - 1) ≤ n := by
  by_cases hone : (digits n).length = 1
  · rw [hone]
    exact hn
  · have hpos : 0 < (digits n).length := Nat.length_toDigits_pos
    have hiff := Nat.length_toDigits_le_iff (b := 10) (n := n) (k := (digits n).length - 1)
      (by decide) (by omega)
    rw [← digits] at hiff
    refine Nat.not_lt.1 fun hlt => ?_
    have hle := hiff.2 hlt
    omega

/-- The last grid of the search is finer than the unit in the last place. -/
theorem pow_lastGrid_le {b : Binary} (hpos : 0 < b.significand) (hlt : b.significand < 2 ^ 53) :
    (10 : ℚ) ^ (((digits b.fraction.1).length : ℤ) - (digits b.fraction.2).length + 1 - 23) ≤
      2 ^ (b.exponent - 2) := by
  have hnum : 0 < b.fraction.1 := by
    show 0 < b.significand * 2 ^ b.exponent.toNat
    positivity
  have hlength : 1 ≤ (digits b.fraction.1).length := Nat.length_toDigits_pos
  have hlow : (10 : ℚ) ^ ((digits b.fraction.1).length - 1 : ℕ) ≤
      b.significand * 2 ^ b.exponent.toNat := by
    exact_mod_cast pow_length_digits_le hnum
  have hhigh : (2 : ℚ) ^ (-b.exponent).toNat ≤ 10 ^ (digits b.fraction.2).length := by
    exact_mod_cast (lt_pow_length_digits b.fraction.2).le
  have hsignificand : (b.significand : ℚ) ≤ 2 ^ 53 := by exact_mod_cast hlt.le
  generalize (digits b.fraction.1).length = m at *
  generalize (digits b.fraction.2).length = n at *
  have hexponent : (m : ℤ) - n + 1 - 23 = ((m - 1 : ℕ) : ℤ) + (-n + -21) := by omega
  have hten : (10 : ℚ) ≠ 0 := by norm_num
  have htwo : (2 : ℚ) ≠ 0 := by norm_num
  calc (10 : ℚ) ^ ((m : ℤ) - n + 1 - 23)
      = 10 ^ (m - 1) * ((10 ^ n)⁻¹ * (10 ^ 21)⁻¹) := by
        rw [hexponent, zpow_add₀ hten, zpow_add₀ hten, zpow_neg, zpow_natCast, zpow_natCast]
        norm_num
    _ ≤ (2 ^ 53 * 2 ^ b.exponent.toNat) * ((2 ^ (-b.exponent).toNat)⁻¹ * (10 ^ 21)⁻¹) := by
        gcongr
        exact hlow.trans (by gcongr)
    _ = 2 ^ b.exponent * (2 ^ 53 * (10 ^ 21)⁻¹) := by
        rw [zpow_eq_div 2 b.exponent]
        field_simp
    _ ≤ 2 ^ b.exponent * (2 ^ 2)⁻¹ := by
        gcongr
        norm_num
    _ = 2 ^ (b.exponent - 2) := by
        rw [zpow_sub₀ htwo, div_eq_mul_inv]
        norm_num

/-- The shortest decimal of a double that is not zero is not zero. -/
theorem Binary.shortest_pos {b : Binary} (hpos : 0 < b.significand) (hlt : b.significand < 2 ^ 53) :
    0 < b.shortest.coefficient := by
  have hproper := interval_proper hpos
  refine hproper.search_pos (k := 23) (by decide) (hproper.onGrid?_ne_none (gridRatio_le ?_))
  exact pow_lastGrid_le hpos hlt

end TelemetryCharts.Decimal
