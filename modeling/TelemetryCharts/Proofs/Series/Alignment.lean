import TelemetryCharts.Proofs.Series.Outcomes

/-!
# Series aligned with their tables

What is derived from a frame stands at the rows of the frame. The mean of a window stands at its
last row and depends on no row outside of the window.
-/

namespace TelemetryCharts

/-- Says that a series stands at the `n` rows of a table with given successes. There is a time step
and a total of failures for each row, and a mean for each window of rows, at the time step of the
last of them. A mean is the sum of the successes from left to right, divided by how many there are.
No point is lost when values are paired with their time steps, and each marker has the time step of
its row. -/
structure Series.IsAligned (s : Series Float) (window n : Nat) (totalSucc : List Float) : Prop where
  timeSteps : s.timeSteps.length = n
  failureTotal : s.failureTotal.length = n
  averageTimeSteps : s.average.timeSteps.length = n + 1 - window
  averageValues : s.average.values.length = n + 1 - window
  mean : ∀ i, i + window ≤ n →
    s.average.values[i]? =
        some (((totalSucc.drop i).take window).foldl (· + ·) (-0.0) / Float.ofNat window) ∧
      s.average.timeSteps[i]? = s.timeSteps[i + window - 1]?
  points : s.average.points.unzip = (s.average.timeSteps, s.average.values)
  failurePoints : s.failurePoints.unzip =
    (s.timeSteps, s.failureTotal.map fun n => Float.ofNat n.toNat)
  markers : ∀ kind, ∀ marker ∈ s.markers.get kind,
    marker.row < n ∧ s.timeSteps[marker.row]? = some marker.timeStep

namespace Frame

/-- Says that a frame has all required columns, and that each of them has `n` cells. -/
def HasRows (frame : Frame) (n : Nat) : Prop :=
  ∀ name ∈ ColumnName.required, ∃ column, frame.column? name = some column ∧ column.length = n

theorem HasRows.length_eq {frame : Frame} {n : Nat} (h : frame.HasRows n) {name : String}
    (hname : name ∈ ColumnName.required) {column : Column} (hcolumn : frame.column? name = some column) :
    column.length = n := by
  obtain ⟨other, hother, hlength⟩ := h name hname
  rw [hcolumn] at hother
  cases hother
  exact hlength

variable {frame : Frame} {cells : Cells} {window n : Nat}

/-- The cells of a frame with as many cells in each required column make up an aligned series. -/
theorem Yields.isAligned_series (h : frame.Yields cells) (hrows : frame.HasRows n)
    (hwindow : 1 ≤ window) : (cells.series window).IsAligned window n cells.totalSucc := by
  have htimeSteps : cells.timeSteps.length = n := by
    have hlength := hrows.length_eq (by decide) h.timeStep
    rwa [Column.length, List.length_map] at hlength
  have htotalSucc : cells.totalSucc.length = n := by
    have hlength := hrows.length_eq (by decide) h.totalSucc
    rwa [Column.length, List.length_map] at hlength
  have hget : cells.get.length = n := by
    have hlength := hrows.length_eq (by decide) h.get
    rwa [Column.length, List.length_map] at hlength
  have hfailureTotal : cells.failureTotal.length = n := by
    rw [(failureTotals_take h.failureTotal).1, hget]
  have haverageTimeSteps : (cells.timeSteps.drop (window - 1)).length = n + 1 - window := by
    rw [List.length_drop]
    omega
  have hmeans : (means window cells.totalSucc).length = n + 1 - window := by
    rw [length_means hwindow, htotalSucc]
  refine ⟨htimeSteps, hfailureTotal, haverageTimeSteps, hmeans, fun i hi => ⟨?_, ?_⟩, ?_, ?_, ?_⟩
  · show (means window cells.totalSucc)[i]? = _
    rw [getElem?_means hwindow, if_pos (by omega)]
    rfl
  · show (cells.timeSteps.drop (window - 1))[i]? = cells.timeSteps[i + window - 1]?
    rw [List.getElem?_drop]
    congr 1
    omega
  · apply List.unzip_zip
    exact haverageTimeSteps.trans hmeans.symm
  · apply List.unzip_zip
    rw [List.length_map]
    exact htimeSteps.trans hfailureTotal.symm
  · intro kind marker hmarker
    have hfound : marker ∈ (Markers.ofLabels cells.timeSteps cells.labels).get kind := hmarker
    rw [Markers.get_ofLabels] at hfound
    split at hfound
    · obtain ⟨-, htimeStep⟩ := Markers.mem_find_iff.1 hfound
      have hrow := (List.getElem?_eq_some_iff.1 htimeStep).1
      rw [htimeSteps] at hrow
      exact ⟨hrow, htimeStep⟩
    · cases hfound

/-- A series that is derived from a frame with as many cells in each required column is aligned with
the rows of the frame. Its means are the same as those of any other frame with the same successes in
the rows of their windows. -/
theorem series_aligned (hrows : frame.HasRows n) {s : Series Float}
    (hseries : frame.series window = .ok s) :
    frame.floats ColumnName.timeStep = .ok s.timeSteps ∧
      ∃ totalSucc, frame.floats ColumnName.totalSucc = .ok totalSucc ∧ totalSucc.length = n ∧
        s.IsAligned window n totalSucc ∧
        ∀ (other : Frame) (changed : List Float) (s' : Series Float),
          other.floats ColumnName.totalSucc = .ok changed → other.series window = .ok s' →
          ∀ i, (∀ row, i ≤ row → row < i + window → changed[row]? = totalSucc[row]?) →
            s'.average.values[i]? = s.average.values[i]? := by
  obtain ⟨hwindow, cells, hcells, rfl⟩ := series_eq_ok_iff.1 hseries
  have hlength := hrows.length_eq (by decide) hcells.totalSucc
  rw [Column.length, List.length_map] at hlength
  refine ⟨floats_eq_ok_iff.2 hcells.timeStep, cells.totalSucc, floats_eq_ok_iff.2 hcells.totalSucc,
    hlength, hcells.isAligned_series hrows hwindow, ?_⟩
  intro other changed s' hchanged hother i hsame
  obtain ⟨-, cells', hcells', rfl⟩ := series_eq_ok_iff.1 hother
  obtain rfl : cells'.totalSucc = changed := by
    have htotalSucc := floats_eq_ok_iff.2 hcells'.totalSucc
    rw [hchanged] at htotalSucc
    cases htotalSucc
    rfl
  exact getElem?_means_congr hwindow hsame

/-- A frame of four rows with given successes and an event in the last row. -/
def fourRows (totalSucc : List Float) : Frame where
  columns := [
    (ColumnName.event, .text [none, some "warm", none, some "START_SERVER"]),
    (ColumnName.totalSucc, .floats (totalSucc.map some)),
    (ColumnName.timeStep, .floats [some 1, some 2, some 4, some 3]),
    (ColumnName.getFailCount, .counters [some 0, some 1, some 0, some 2]),
    (ColumnName.putFailCount, .counters [some 0, some 0, some 7, some 0]),
    (ColumnName.deleteFailCount, .counters [some 3, some 0, some 0, some 0])]

theorem hasRows_fourRows {totalSucc : List Float} (h : totalSucc.length = 4) :
    (fourRows totalSucc).HasRows 4 := by
  intro name hname
  simp only [ColumnName.required, List.mem_cons, List.not_mem_nil, or_false] at hname
  rcases hname with rfl | rfl | rfl | rfl | rfl | rfl
  all_goals exact ⟨_, rfl, by simp [Column.length, h]⟩

theorem series_aligned_fourRows :
    ∃ s s' : Series Float, (fourRows [5, 6, 8, 0]).series 2 = .ok s ∧
      (fourRows [0 / 0, 6, 8, 1 / 0]).series 2 = .ok s' ∧ s.IsAligned 2 4 [5, 6, 8, 0] ∧
      s'.average.values[1]? = s.average.values[1]? := by
  obtain ⟨s, hs, -⟩ := exists_ok_of_any (o := (fourRows [5, 6, 8, 0]).series 2) (p := fun _ => True)
    (by decide +kernel)
  obtain ⟨s', hs', -⟩ := exists_ok_of_any (o := (fourRows [0 / 0, 6, 8, 1 / 0]).series 2)
    (p := fun _ => True) (by decide +kernel)
  obtain ⟨-, totalSucc, htotalSucc, -, haligned, hmeans⟩ := series_aligned (hasRows_fourRows rfl) hs
  cases htotalSucc
  refine ⟨s, s', hs, hs', haligned, hmeans (fourRows _) _ s' rfl hs' 1 ?_⟩
  intro row hlow hhigh
  obtain rfl | rfl : row = 1 ∨ row = 2 := by omega
  all_goals rfl

end Frame

end TelemetryCharts
