import TelemetryCharts.Proofs.Series.Derivation

/-!
# Truncated tables

The frame of a truncated table is a prefix of the frame of the whole table, and so is what is
derived from it. A truncation neither causes an error nor avoids one.
-/

namespace TelemetryCharts

section
variable {get put delete totals : List UInt64}

/-- There is a total for each row, and those of the first rows are the first ones. -/
theorem sumFailures?_take (hput : get.length = put.length) (hdelete : get.length = delete.length)
    (h : sumFailures? get put delete = some totals) :
    totals.length = get.length ∧
      ∀ n, sumFailures? (get.take n) (put.take n) (delete.take n) = some (totals.take n) := by
  induction get generalizing put delete totals with
  | nil =>
    obtain rfl := List.length_eq_zero_iff.1 hput.symm
    obtain rfl := List.length_eq_zero_iff.1 hdelete.symm
    cases h
    exact ⟨rfl, fun n => by simp [sumFailures?]⟩
  | cons g gets ih =>
    cases put with
    | nil => cases hput
    | cons p puts =>
      cases delete with
      | nil => cases hdelete
      | cons d deletes =>
        obtain ⟨total, htotal, h⟩ := Option.bind_eq_some_iff.1 h
        obtain ⟨rest, hrest, h⟩ := Option.bind_eq_some_iff.1 h
        cases h
        obtain ⟨hlength, htake⟩ := ih (Nat.succ.inj hput) (Nat.succ.inj hdelete) hrest
        refine ⟨by rw [List.length_cons, List.length_cons, hlength], fun n => ?_⟩
        cases n with
        | zero => rfl
        | succ n =>
          simp only [List.take_succ_cons, sumFailures?, htotal, htake n]
          rfl

theorem failureTotals_take (h : failureTotals get put delete = .ok totals) :
    totals.length = get.length ∧
      ∀ n, failureTotals (get.take n) (put.take n) (delete.take n) = .ok (totals.take n) := by
  rw [failureTotals] at h
  split at h
  · cases h
  · next hlengths =>
    simp only [not_or, Decidable.not_not] at hlengths
    obtain ⟨hput, hdelete⟩ := hlengths
    cases hsum : sumFailures? get put delete with
    | none =>
      rw [hsum] at h
      cases h
    | some sums =>
      rw [hsum] at h
      cases h
      obtain ⟨hlength, htake⟩ := sumFailures?_take hput hdelete hsum
      refine ⟨hlength, fun n => ?_⟩
      simp [failureTotals, htake n, orOverflow, ← hput, ← hdelete]

end

namespace Frame

theorem load_of_read_error {fs : FileSystem} {path : Path} {e : FileError}
    (h : fs.read path = .error e) (truncate : Option Nat) :
    load fs path truncate = fail (.tableNotFound path) := by
  have hfile : fs.isFile path = false := by
    rw [FileSystem.isFile]
    split
    · next location content hfind =>
      rw [FileSystem.read, hfind] at h
      cases h
    · rfl
  rw [load, hfile]
  rfl

/-- A truncation only takes the first rows of what is loaded without it. -/
theorem load_some (fs : FileSystem) (path : Path) (n : Nat) :
    load fs path (some n) = (load fs path none).map (take n) := by
  cases hread : fs.read path with
  | error e =>
    rw [load_of_read_error hread, load_of_read_error hread]
    rfl
  | ok content =>
    rw [load_of_read hread, load_of_read hread]
    cases Table.read content.toList with
    | error e => rfl
    | ok frame =>
      by_cases hmissing : frame.missing = []
      · simp [hmissing, Except.map]
      · simp [hmissing, Except.map, fail]

theorem rectangular_of_load {fs : FileSystem} {path : Path} {frame : Frame}
    (h : load fs path none = .ok frame) : frame.Rectangular := by
  cases hread : fs.read path with
  | error e =>
    rw [load_of_read_error hread] at h
    cases h
  | ok content =>
    rw [load_of_read hread] at h
    cases htable : Table.read content.toList with
    | error e =>
      rw [htable] at h
      cases h
    | ok read =>
      by_cases hmissing : read.missing = []
      · simp only [htable, if_pos hmissing] at h
        cases h
        exact (Table.rectangular_of_read htable).normalise
      · simp only [htable, if_neg hmissing] at h
        cases h

theorem Rectangular.take_min {frame : Frame} (h : frame.Rectangular) (n : Nat) :
    frame.take n = frame.take (min n frame.height) := by
  have hcolumn : ∀ column : Column, column.take n = column.take (min n column.length) := by
    intro column
    cases column <;> simp [Column.take, Column.length, ← List.take_eq_take_min]
  simp only [Frame.take, mk.injEq]
  apply List.map_congr_left
  intro entry hentry
  rw [hcolumn, h entry hentry]

/-- The first cells of each kind. -/
def Cells.take (n : Nat) (cells : Cells) : Cells where
  timeSteps := cells.timeSteps.take n
  totalSucc := cells.totalSucc.take n
  get := cells.get.take n
  put := cells.put.take n
  delete := cells.delete.take n
  failureTotal := cells.failureTotal.take n
  labels := cells.labels.take n

theorem labelCells_take {column : Column} {labels : List (Option String)}
    (h : labelCells column = .ok labels) (n : Nat) :
    labelCells (column.take n) = .ok (labels.take n) := by
  cases column with
  | text cells =>
    cases h
    rfl
  | booleans cells =>
    cases h
    simp [Column.take, labelCells, Column.toTexts]
  | integers cells => cases h
  | floats cells => cases h
  | counters cells => cases h

theorem Yields.take {frame : Frame} {cells : Cells} (h : frame.Yields cells) (n : Nat) :
    (frame.take n).Yields (cells.take n) := by
  obtain ⟨column, hcolumn, hlabels⟩ := h.event
  refine ⟨?_, ?_, ?_, ?_, ?_, (failureTotals_take h.failureTotal).2 n, column.take n, ?_,
    labelCells_take hlabels n⟩
  · rw [column?_take, h.timeStep, Option.map_some, Column.take, Cells.take, List.map_take]
  · rw [column?_take, h.totalSucc, Option.map_some, Column.take, Cells.take, List.map_take]
  · rw [column?_take, h.get, Option.map_some, Column.take, Cells.take, List.map_take]
  · rw [column?_take, h.put, Option.map_some, Column.take, Cells.take, List.map_take]
  · rw [column?_take, h.delete, Option.map_some, Column.take, Cells.take, List.map_take]
  · rw [column?_take, hcolumn, Option.map_some]

end Frame

/-- Says that a series is what the first `n` rows contribute to another one. The moving average lags
behind by the size of its window. -/
structure Series.IsPrefix (part whole : Series Float) (n : Nat) : Prop where
  window_eq : part.window = whole.window
  timeSteps : part.timeSteps = whole.timeSteps.take (min n whole.timeSteps.length)
  failureTotal : part.failureTotal = whole.failureTotal.take (min n whole.timeSteps.length)
  averageTimeSteps : part.average.timeSteps =
    whole.average.timeSteps.take (min n whole.timeSteps.length + 1 - whole.window)
  averageValues : part.average.values =
    whole.average.values.take (min n whole.timeSteps.length + 1 - whole.window)
  markers : ∀ kind, part.markers.get kind =
    (whole.markers.get kind).filter fun marker => marker.row < n

theorem Frame.Yields.isPrefix_series {frame : Frame} {cells : Frame.Cells} (h : frame.Yields cells)
    (hframe : frame.Rectangular) {window : Nat} (hwindow : 1 ≤ window) (n : Nat) :
    ((cells.take n).series window).IsPrefix (cells.series window) n := by
  have htimeSteps : cells.timeSteps.length = frame.height := by
    have hlength := hframe.length_column? h.timeStep
    rwa [Column.length, List.length_map] at hlength
  have htotalSucc : cells.totalSucc.length = frame.height := by
    have hlength := hframe.length_column? h.totalSucc
    rwa [Column.length, List.length_map] at hlength
  have hget : cells.get.length = frame.height := by
    have hlength := hframe.length_column? h.get
    rwa [Column.length, List.length_map] at hlength
  have hfailureTotal : cells.failureTotal.length = cells.timeSteps.length := by
    rw [(failureTotals_take h.failureTotal).1, hget, htimeSteps]
  have haverage := Smoothed.trailing_take hwindow (htotalSucc.trans htimeSteps.symm) n
  refine ⟨rfl, List.take_eq_take_min, ?_, congrArg Smoothed.timeSteps haverage,
    congrArg Smoothed.values haverage, fun kind => ?_⟩
  · show cells.failureTotal.take n = cells.failureTotal.take (min n cells.timeSteps.length)
    rw [List.take_eq_take_min, hfailureTotal]
  · show (Markers.ofLabels _ _).get kind = ((Markers.ofLabels _ _).get kind).filter _
    rw [Markers.get_ofLabels, Markers.get_ofLabels]
    split
    · exact Markers.find_take kind cells.timeSteps cells.labels n
    · rfl

/-- Whatever a file holds, a truncation keeps all errors and takes the first rows of the frame, and
the series of a truncated chart is a prefix of the series of the whole one. -/
theorem Chart.derive_truncated (fs : FileSystem) (n : Nat) :
    (∀ path,
      (∀ stop, Frame.load fs path (some n) = .error stop ↔ Frame.load fs path none = .error stop) ∧
      ∀ whole, Frame.load fs path none = .ok whole → whole.Rectangular ∧
        Frame.load fs path (some n) = .ok (whole.take (min n whole.height))) ∧
    ∀ (chart : Chart) (whole : Series Float), chart.truncate = none → chart.derive fs = .ok whole →
      ∃ part, { chart with truncate := some n }.derive fs = .ok part ∧ part.IsPrefix whole n := by
  refine ⟨fun path => ⟨fun stop => ?_, fun whole hwhole => ?_⟩, fun chart whole hnone hwhole => ?_⟩
  · rw [Frame.load_some]
    cases Frame.load fs path none with
    | ok frame => simp [Except.map]
    | error other => simp [Except.map]
  · have hframe := Frame.rectangular_of_load hwhole
    rw [Frame.load_some, hwhole, ← hframe.take_min]
    exact ⟨hframe, rfl⟩
  · rw [derive, hnone] at hwhole
    obtain ⟨frame, hload, hseries⟩ := Outcome.bind_eq_ok_iff.1 hwhole
    have hframe := Outcome.within_eq_ok_iff.1 hload
    obtain ⟨hwindow, cells, hcells, rfl⟩ :=
      Frame.series_eq_ok_iff.1 (Outcome.within_eq_ok_iff.1 hseries)
    refine ⟨_, ?_, hcells.isPrefix_series (Frame.rectangular_of_load hframe) hwindow n⟩
    rw [derive, Outcome.bind_eq_ok_iff]
    refine ⟨frame.take n, Outcome.within_eq_ok_iff.2 ?_, Outcome.within_eq_ok_iff.2 ?_⟩
    · rw [Frame.load_some, hframe]
      rfl
    · exact Frame.series_eq_ok_iff.2 ⟨hwindow, _, hcells.take n, rfl⟩

theorem derive_briefRun_truncated :
    ∃ whole part, wholeChart.derive (.ofTable (Record.table briefRun).toUTF8) = .ok whole ∧
      briefChart.derive (.ofTable (Record.table briefRun).toUTF8) = .ok part ∧
      part.IsPrefix whole 3 := by
  have hfile : (FileSystem.ofTable (Record.table briefRun).toUTF8).read wholeChart.input =
      .ok (Record.table briefRun).toUTF8 := FileSystem.read_ofTable _
  have hsummable : ∀ r ∈ Record.kept wholeChart.truncate briefRun, r.Summable := by
    simp [wholeChart, Chart.new, briefRun, Record.kept, Record.Summable, Counts.none]
  obtain ⟨totals, -, hwhole⟩ :=
    Chart.exists_derive_eq hfile briefRun_events briefRun_signed (by decide) hsummable
  obtain ⟨part, hpart, hprefix⟩ := (Chart.derive_truncated _ 3).2 _ _ rfl hwhole
  exact ⟨_, part, hwhole, hpart, hprefix⟩

end TelemetryCharts
