import Mathlib.Algebra.Order.BigOperators.Group.List
import Mathlib.Algebra.Order.Field.Rat
import Mathlib.Tactic.NormNum
import TelemetryCharts.Drawing.Axis
import TelemetryCharts.Proofs.Series.Outcomes

/-!
# What the axes cover

In exact arithmetic the axes of a chart cover all that is drawn. The time axis goes a little beyond the
first and the last time step, and everything stands at a time step. The other axis goes from zero to a
little beyond the greatest mean or total, or to one if all of them are zero.
-/

namespace TelemetryCharts

/-- Exact numbers. -/
instance : Scale ℚ where
  ofNat n := n
  emptySum := 0
  lesser := min
  greater := max
  isBelow a b := a < b
  beneath x := x - 1
  margin := 3 / 100
  half := 1 / 2

/-- A row of a table, in which no cell is missing but perhaps the label. -/
structure DataRow (α : Type) where
  timeStep : α
  totalSucc : α
  get : UInt64
  put : UInt64
  delete : UInt64
  label : Option String

/-- The failures of a row, summed up as natural numbers. -/
def DataRow.failures {α : Type} (row : DataRow α) : Nat :=
  row.get.toNat + row.put.toNat + row.delete.toNat

/-- The failures of each of some rows, all kinds of operations together. -/
def DataRow.totals {α : Type} (rows : List (DataRow α)) : Outcome (List UInt64) :=
  failureTotals (rows.map DataRow.get) (rows.map DataRow.put) (rows.map DataRow.delete)

/-- The failures of rows have totals if and only if those of each row can be counted. -/
theorem DataRow.exists_totals_iff {α : Type} {rows : List (DataRow α)} :
    (∃ counters, totals rows = .ok counters) ↔ ∀ row ∈ rows, row.failures < 2 ^ 64 := by
  have hfailures : rowFailures (rows.map get) (rows.map put) (rows.map delete) =
      rows.map failures := by
    rw [rowFailures, List.zip_map', List.zip_map', List.map_map]
    rfl
  have hnone : sumFailures? (rows.map get) (rows.map put) (rows.map delete) =
      none ↔ ∃ total ∈ rows.map failures, 2 ^ 64 ≤ total := by
    rw [sumFailures?_eq_none_iff, hfailures]
  simp only [totals, failureTotals, List.length_map, ne_eq, not_true_eq_false, or_self, if_false]
  cases hsum : sumFailures? (rows.map get) (rows.map put) (rows.map delete) with
  | none =>
    obtain ⟨total, htotal, hlarge⟩ := hnone.1 hsum
    obtain ⟨row, hrow, rfl⟩ := List.mem_map.1 htotal
    refine iff_of_false ?_ fun h => absurd (h row hrow) (Nat.not_lt.2 hlarge)
    rintro ⟨counters, hcounters⟩
    cases hcounters
  | some counters =>
    refine iff_of_true ⟨counters, rfl⟩ fun row hrow => Nat.not_le.1 fun hlarge => ?_
    rw [hnone.2 ⟨_, List.mem_map_of_mem hrow, hlarge⟩] at hsum
    cases hsum

section
variable {α : Type} [Scale α]

/-- The series of rows, given their failures. -/
def Series.ofTotals (window : Nat) (rows : List (DataRow α)) (totals : List UInt64) : Series α :=
  .ofColumns window (rows.map DataRow.timeStep) (rows.map DataRow.totalSucc) totals
    (.ofLabels (rows.map DataRow.timeStep) (rows.map DataRow.label))

/-- The series that is derived from rows. With doubles it is the one that is derived from a frame which
holds the rows. -/
def Series.ofRows (window : Nat) (rows : List (DataRow α)) : Outcome (Series α) := do
  if window = 0 then fail .windowOfZero
  return .ofTotals window rows (← DataRow.totals rows)

theorem Series.ofRows_eq_ok_iff {window : Nat} {rows : List (DataRow α)} {s : Series α} :
    ofRows window rows = .ok s ↔
      1 ≤ window ∧ ∃ totals, DataRow.totals rows = .ok totals ∧ s = ofTotals window rows totals := by
  rw [ofRows]
  by_cases hwindow : window = 0
  · subst hwindow
    simp [fail, bind, Except.bind]
  · rw [if_neg hwindow]
    simp only [Outcome.bind_eq_ok_iff]
    constructor
    · rintro ⟨totals, htotals, hseries⟩
      cases hseries
      exact ⟨Nat.one_le_iff_ne_zero.2 hwindow, totals, htotals, rfl⟩
    · rintro ⟨-, totals, htotals, rfl⟩
      exact ⟨totals, htotals, rfl⟩

end

namespace Frame

/-- Says that the required columns of a frame hold the cells of rows. -/
structure HoldsRows (frame : Frame) (rows : List (DataRow Float)) : Prop where
  timeStep : frame.column? ColumnName.timeStep =
    some (.floats ((rows.map DataRow.timeStep).map some))
  totalSucc : frame.column? ColumnName.totalSucc =
    some (.floats ((rows.map DataRow.totalSucc).map some))
  get : frame.column? ColumnName.getFailCount = some (.counters ((rows.map DataRow.get).map some))
  put : frame.column? ColumnName.putFailCount = some (.counters ((rows.map DataRow.put).map some))
  delete : frame.column? ColumnName.deleteFailCount =
    some (.counters ((rows.map DataRow.delete).map some))
  event : frame.column? ColumnName.event = some (.text (rows.map DataRow.label))

/-- The series of a frame is that of its rows, whatever the window. -/
theorem HoldsRows.series_eq {frame : Frame} {rows : List (DataRow Float)} (h : frame.HoldsRows rows)
    (window : Nat) : frame.series window = Series.ofRows window rows := by
  rw [Frame.series, Series.ofRows]
  by_cases hwindow : window = 0
  · rw [if_pos hwindow, if_pos hwindow]
    rfl
  · have hmarkers := (markers_eq_ok_iff h.timeStep).2 ⟨_, _, h.event, rfl, rfl⟩
    rw [if_neg hwindow, if_neg hwindow, floats_eq_ok_iff.2 h.timeStep, floats_eq_ok_iff.2 h.totalSucc,
      counters_eq_ok_iff.2 h.get, counters_eq_ok_iff.2 h.put, counters_eq_ok_iff.2 h.delete, hmarkers]
    rfl

end Frame

section
variable {α : Type} [LinearOrder α] {xs : List α} {x start : α}

theorem le_foldl_max (h : x ∈ start :: xs) : x ≤ xs.foldl max start := by
  induction xs generalizing start x with
  | nil => exact (List.mem_singleton.1 h).le
  | cons y ys ih =>
    rw [List.foldl_cons]
    rcases List.mem_cons.1 h with rfl | h
    · exact (le_max_left x y).trans (ih List.mem_cons_self)
    · rcases List.mem_cons.1 h with rfl | h
      · exact (le_max_right start x).trans (ih List.mem_cons_self)
      · exact ih (List.mem_cons_of_mem _ h)

theorem foldl_min_le (h : x ∈ start :: xs) : xs.foldl min start ≤ x :=
  le_foldl_max (α := αᵒᵈ) h

end

section
variable {xs : List ℚ}

theorem Scale.sum_nonneg (h : ∀ x ∈ xs, 0 ≤ x) : 0 ≤ Scale.sum xs := by
  have hsum : Scale.sum xs = xs.sum := List.sum_eq_foldl.symm
  rw [hsum]
  exact List.sum_nonneg h

/-- Means of numbers that are not negative are not negative. -/
theorem means_nonneg {window : Nat} (hwindow : 1 ≤ window) (h : ∀ x ∈ xs, 0 ≤ x) :
    ∀ mean ∈ means window xs, 0 ≤ mean := by
  intro mean hmean
  rw [means, windows_eq hwindow, List.map_map] at hmean
  obtain ⟨i, -, rfl⟩ := List.mem_map.1 hmean
  have hsum : 0 ≤ Scale.sum ((xs.drop i).take window) :=
    Scale.sum_nonneg fun x hx => h x (List.mem_of_mem_drop (List.mem_of_mem_take hx))
  exact div_nonneg hsum (Nat.cast_nonneg window)

end

theorem Markers.timeSteps_ofLabels_subset {α : Type} (timeSteps : List α) (labels : List (Option String))
    (kind : Event) : (ofLabels timeSteps labels).timeSteps kind ⊆ timeSteps := by
  intro t ht
  obtain ⟨marker, hmarker, rfl⟩ := List.mem_map.1 ht
  rw [get_ofLabels] at hmarker
  split at hmarker
  · exact List.mem_of_getElem? (mem_find_iff.1 hmarker).2
  · cases hmarker

/-- Says that a number lies inside of a range and not at its ends. -/
def AxisRange.Inside (range : AxisRange ℚ) (x : ℚ) : Prop :=
  range.start < x ∧ x < range.stop

namespace Series

/-- Says that the axes of a series cover all that is drawn of it. -/
structure FitsAxes (s : Series ℚ) : Prop where
  timeRange : s.timeRange.start < s.timeRange.stop
  valueRange : s.valueRange.start < s.valueRange.stop
  timeSteps : ∀ t ∈ s.timeSteps, s.timeRange.Inside t
  averageTimeSteps : ∀ t ∈ s.average.timeSteps, s.timeRange.Inside t
  markers : ∀ kind, ∀ t ∈ s.markers.timeSteps kind, s.timeRange.Inside t
  valueStart : s.valueRange.start = 0
  averageValues : ∀ v ∈ s.average.values, 0 ≤ v ∧ v < s.valueRange.stop
  failureTotal : ∀ n ∈ s.failureTotal,
    0 ≤ (Scale.ofCounter n : ℚ) ∧ Scale.ofCounter n < s.valueRange.stop

variable {s : Series ℚ}

/-- The time axis is extended by a part of its length, or else by one half. -/
theorem space_pos (low high : ℚ) :
    0 < if Scale.isBelow low high then (high - low) * Scale.margin else (Scale.half : ℚ) := by
  split
  · next hbelow =>
    have hlt : low < high := of_decide_eq_true hbelow
    exact mul_pos (sub_pos.2 hlt) (show (0 : ℚ) < 3 / 100 by norm_num)
  · show (0 : ℚ) < 1 / 2
    norm_num

theorem inside_timeRange {t : ℚ} (h : t ∈ s.timeSteps) : s.timeRange.Inside t := by
  rw [timeRange]
  cases hsteps : s.timeSteps with
  | nil =>
    rw [hsteps] at h
    cases h
  | cons x xs =>
    rw [hsteps] at h
    have hlow : xs.foldl Scale.lesser x ≤ t := foldl_min_le h
    have hhigh : t ≤ greatest x xs := le_foldl_max (List.mem_cons_of_mem _ h)
    have hspace := space_pos (xs.foldl Scale.lesser x) (greatest x xs)
    constructor
    · exact (sub_lt_self _ hspace).trans_le hlow
    · exact hhigh.trans_lt (lt_add_of_pos_right _ hspace)

theorem timeRange_of_nil (h : s.timeSteps = []) : s.timeRange = ⟨0, 1⟩ := by
  rw [timeRange, h]
  rfl

theorem timeRange_lt : s.timeRange.start < s.timeRange.stop := by
  cases hsteps : s.timeSteps with
  | nil =>
    rw [timeRange_of_nil hsteps]
    exact zero_lt_one
  | cons x xs =>
    have hinside : s.timeRange.Inside x := inside_timeRange (by rw [hsteps]; exact List.mem_cons_self)
    exact hinside.1.trans hinside.2

/-- The values that are drawn. -/
def values (s : Series ℚ) : List ℚ :=
  s.average.values ++ s.failureTotal.map Scale.ofCounter

theorem valueRange_start : s.valueRange.start = 0 := by
  rw [valueRange]
  split <;> rfl

theorem lt_valueRange_stop {v : ℚ} (h : v = 0 ∨ v ∈ s.values) : v < s.valueRange.stop := by
  have hhigh : v ≤ s.values.foldl Scale.greater 0 := by
    apply le_foldl_max
    rcases h with rfl | h
    · exact List.mem_cons_self
    · exact List.mem_cons_of_mem _ h
  rw [valueRange]
  split
  · next hbelow =>
    have hpos : 0 < s.values.foldl Scale.greater 0 := of_decide_eq_true hbelow
    have hfactor : (1 : ℚ) < 1 + 3 / 100 := by norm_num
    exact hhigh.trans_lt (lt_mul_of_one_lt_right hpos hfactor)
  · next hbelow =>
    -- All values are zero, and the axis is that of no values.
    have hzero : s.values.foldl Scale.greater 0 ≤ 0 :=
      not_lt.1 fun hpos => hbelow (decide_eq_true hpos)
    exact (hhigh.trans hzero).trans_lt zero_lt_one

theorem valueRange_of_nil (haverage : s.average.values = []) (hfailureTotal : s.failureTotal = []) :
    s.valueRange = ⟨0, 1⟩ := by
  rw [valueRange, haverage, hfailureTotal]
  rfl

/-- A series fits its axes if all that is drawn stands at its time steps and no mean is negative. -/
theorem fitsAxes_of_subset (haverage : s.average.timeSteps ⊆ s.timeSteps)
    (hmarkers : ∀ kind, s.markers.timeSteps kind ⊆ s.timeSteps)
    (hmeans : ∀ v ∈ s.average.values, 0 ≤ v) : s.FitsAxes where
  timeRange := timeRange_lt
  valueRange := by
    rw [valueRange_start]
    exact lt_valueRange_stop (.inl rfl)
  timeSteps _ := inside_timeRange
  averageTimeSteps _ ht := inside_timeRange (haverage ht)
  markers kind _ ht := inside_timeRange (hmarkers kind ht)
  valueStart := valueRange_start
  averageValues v hv := ⟨hmeans v hv, lt_valueRange_stop (.inr (List.mem_append_left _ hv))⟩
  failureTotal n hn := by
    refine ⟨Nat.cast_nonneg n.toNat, lt_valueRange_stop (.inr ?_)⟩
    exact List.mem_append_right _ (List.mem_map_of_mem hn)

/-- Whatever the rows of a table, in any order, a series is derived from them for every window but zero
if the failures of each row can be counted. If no row has a negative total of successes, then in exact
arithmetic the axes of the series cover all time steps, means, totals and markers. Without rows both
axes go from zero to one. -/
theorem fitsAxes_of_rows (window : Nat) (rows : List (DataRow ℚ))
    (hsuccesses : ∀ row ∈ rows, 0 ≤ row.totalSucc) :
    ((∃ s, ofRows window rows = .ok s) ↔ 1 ≤ window ∧ ∀ row ∈ rows, row.failures < 2 ^ 64) ∧
      ∀ s, ofRows window rows = .ok s → s.FitsAxes ∧
        (∀ row ∈ rows, s.timeRange.Inside row.timeStep) ∧
        (rows = [] → s.timeRange = ⟨0, 1⟩ ∧ s.valueRange = ⟨0, 1⟩) := by
  constructor
  · rw [← DataRow.exists_totals_iff]
    simp only [ofRows_eq_ok_iff]
    constructor
    · rintro ⟨s, hwindow, totals, htotals, -⟩
      exact ⟨hwindow, totals, htotals⟩
    · rintro ⟨hwindow, totals, htotals⟩
      exact ⟨_, hwindow, totals, htotals, rfl⟩
  · intro s hseries
    obtain ⟨hwindow, totals, htotals, rfl⟩ := ofRows_eq_ok_iff.1 hseries
    have hmeans : ∀ v ∈ means window (rows.map DataRow.totalSucc), 0 ≤ v := by
      apply means_nonneg hwindow
      intro v hv
      obtain ⟨row, hrow, rfl⟩ := List.mem_map.1 hv
      exact hsuccesses row hrow
    refine ⟨?_, fun row hrow => inside_timeRange (List.mem_map_of_mem hrow), ?_⟩
    · exact fitsAxes_of_subset (List.drop_subset _ _) (Markers.timeSteps_ofLabels_subset _ _) hmeans
    · rintro rfl
      cases htotals
      exact ⟨timeRange_of_nil rfl, valueRange_of_nil rfl rfl⟩

/-- Rows whose time steps are in no order, two of them with labels. -/
def disorderedRows : List (DataRow ℚ) := [
  ⟨7 / 2, 10, 0, 5, 0, none⟩,
  ⟨-2, 0, 18446744073709551000, 0, 615, some "STOP_SERVER"⟩,
  ⟨3, 1 / 3, 0, 0, 0, some "warm"⟩]

theorem fitsAxes_disorderedRows :
    (∀ row ∈ disorderedRows, 0 ≤ row.totalSucc) ∧
      ∃ s, ofRows 2 disorderedRows = .ok s ∧ s.FitsAxes ∧ s.timeRange.Inside (-2) := by
  have hsuccesses : ∀ row ∈ disorderedRows, 0 ≤ row.totalSucc := by decide +kernel
  obtain ⟨hderived, hfits⟩ := fitsAxes_of_rows 2 disorderedRows hsuccesses
  obtain ⟨s, hs⟩ := hderived.2 ⟨by decide, by decide +kernel⟩
  obtain ⟨hall, hinside, -⟩ := hfits s hs
  exact ⟨hsuccesses, s, hs, hall, hinside ⟨-2, _, _, _, _, _⟩ (.tail _ (.head _))⟩

end Series

end TelemetryCharts
