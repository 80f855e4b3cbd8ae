import TelemetryCharts.Series.Basic

/-!
# Windows of values

A window starts at each value that has enough values after it. The windows of the first values are
the first windows.
-/

namespace TelemetryCharts

section
variable {α : Type} {window : Nat}

/-- The windows of a list, by the positions at which they start. -/
theorem windows_eq (hwindow : 1 ≤ window) (xs : List α) :
    windows window xs =
      (List.range (xs.length + 1 - window)).map fun i => (xs.drop i).take window := by
  induction xs with
  | nil =>
    have hnone : ([] : List α).length + 1 - window = 0 := by
      rw [List.length_nil]
      omega
    rw [hnone]
    rfl
  | cons x xs ih =>
    rw [windows, List.length_cons]
    by_cases hfits : window ≤ xs.length + 1
    · have hcount : xs.length + 1 + 1 - window = xs.length + 1 - window + 1 := by omega
      rw [if_pos hfits, ih, hcount, List.range_succ_eq_map, List.map_cons, List.map_map]
      rfl
    · have hnone : xs.length + 1 + 1 - window = 0 := by omega
      rw [if_neg hfits, hnone]
      rfl

theorem length_windows (hwindow : 1 ≤ window) (xs : List α) :
    (windows window xs).length = xs.length + 1 - window := by
  rw [windows_eq hwindow, List.length_map, List.length_range]

/-- The windows of the first values are the first windows. -/
theorem windows_take (hwindow : 1 ≤ window) (n : Nat) (xs : List α) :
    windows window (xs.take n) = (windows window xs).take (min n xs.length + 1 - window) := by
  have hcount : min (min n xs.length + 1 - window) (xs.length + 1 - window) =
      min n xs.length + 1 - window := by omega
  rw [windows_eq hwindow, windows_eq hwindow, List.length_take, ← List.map_take, List.take_range,
    hcount]
  apply List.map_congr_left
  intro i hi
  have hstart := List.mem_range.1 hi
  have hinside : min window (n - i) = window := by omega
  rw [List.drop_take, List.take_take, hinside]

end

section
variable {α : Type} [Scale α] {window : Nat}

theorem length_means (hwindow : 1 ≤ window) (values : List α) :
    (means window values).length = values.length + 1 - window := by
  rw [means, List.length_map, length_windows hwindow]

/-- The mean at a position is that of the window which starts there. -/
theorem getElem?_means (hwindow : 1 ≤ window) (values : List α) (i : Nat) :
    (means window values)[i]? =
      if i + window ≤ values.length then
        some (Scale.sum ((values.drop i).take window) / Scale.ofNat window)
      else none := by
  rw [means, windows_eq hwindow, List.map_map, List.getElem?_map]
  by_cases hfits : i + window ≤ values.length
  · rw [if_pos hfits, List.getElem?_range (by omega), Option.map_some, Function.comp_apply]
  · have hnone : (List.range (values.length + 1 - window))[i]? = none := by
      rw [List.getElem?_eq_none_iff, List.length_range]
      omega
    rw [if_neg hfits, hnone, Option.map_none]

/-- The mean at a position depends on nothing but the values in its window. -/
theorem getElem?_means_congr (hwindow : 1 ≤ window) {values others : List α} {i : Nat}
    (h : ∀ row, i ≤ row → row < i + window → others[row]? = values[row]?) :
    (means window others)[i]? = (means window values)[i]? := by
  have hfits : i + window ≤ others.length ↔ i + window ≤ values.length := by
    have hlast := h (i + window - 1) (by omega) (by omega)
    have hshort : others.length ≤ i + window - 1 ↔ values.length ≤ i + window - 1 := by
      rw [← List.getElem?_eq_none_iff, ← List.getElem?_eq_none_iff, hlast]
    omega
  have hrun : (others.drop i).take window = (values.drop i).take window := by
    apply List.ext_getElem?
    intro k
    rw [List.getElem?_take, List.getElem?_take, List.getElem?_drop, List.getElem?_drop]
    split
    · exact h (i + k) (by omega) (by omega)
    · rfl
  rw [getElem?_means hwindow, getElem?_means hwindow, hrun]
  simp only [hfits]

/-- The moving average of the first values is the first part of the moving average. -/
theorem Smoothed.trailing_take (hwindow : 1 ≤ window) {timeSteps values : List α}
    (hlength : values.length = timeSteps.length) (n : Nat) :
    trailing window (timeSteps.take n) (values.take n) =
      ⟨(trailing window timeSteps values).timeSteps.take (min n timeSteps.length + 1 - window),
        (trailing window timeSteps values).values.take (min n timeSteps.length + 1 - window)⟩ := by
  simp only [trailing, means, windows_take hwindow, List.map_take, hlength, mk.injEq, and_true]
  rw [List.drop_take, List.take_eq_take_iff, List.length_drop]
  omega

end

end TelemetryCharts
