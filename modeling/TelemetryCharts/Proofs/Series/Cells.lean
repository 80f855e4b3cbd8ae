import TelemetryCharts.Proofs.Traversal
import TelemetryCharts.Series.Derive

/-!
# The cells behind a series

A series can be derived from a frame exactly if the frame yields cells for it: the values of its
required columns, none of which is missing, and the labels of its events.
-/

namespace TelemetryCharts

theorem Outcome.bind_eq_ok_iff {α β : Type} {o : Outcome α} {f : α → Outcome β} {y : β} :
    (o >>= f) = .ok y ↔ ∃ x, o = .ok x ∧ f x = .ok y := by
  cases o with
  | ok x => simp [bind, Except.bind]
  | error stop => simp [bind, Except.bind]

theorem Outcome.within_eq_ok_iff {α : Type} {o : Outcome α} {context : String} {x : α} :
    o.within context = .ok x ↔ o = .ok x := by
  cases o with
  | ok y => exact Iff.rfl
  | error stop => simp [Outcome.within, Except.mapError]

namespace Frame

/-- The cells from which a series is made. -/
structure Cells where
  timeSteps : List Float
  totalSucc : List Float
  get : List UInt64
  put : List UInt64
  delete : List UInt64
  failureTotal : List UInt64
  labels : List (Option String)

/-- The series that cells make up. -/
def Cells.series (window : Nat) (cells : Cells) : Series Float :=
  .ofColumns window cells.timeSteps cells.totalSucc cells.failureTotal
    (.ofLabels cells.timeSteps cells.labels)

/-- Says that a frame yields cells. -/
structure Yields (frame : Frame) (cells : Cells) : Prop where
  timeStep : frame.column? ColumnName.timeStep = some (.floats (cells.timeSteps.map some))
  totalSucc : frame.column? ColumnName.totalSucc = some (.floats (cells.totalSucc.map some))
  get : frame.column? ColumnName.getFailCount = some (.counters (cells.get.map some))
  put : frame.column? ColumnName.putFailCount = some (.counters (cells.put.map some))
  delete : frame.column? ColumnName.deleteFailCount = some (.counters (cells.delete.map some))
  failureTotal : failureTotals cells.get cells.put cells.delete = .ok cells.failureTotal
  event : ∃ column, frame.column? ColumnName.event = some column ∧
    labelCells column = .ok cells.labels

variable {frame : Frame} {name : String}

theorem required_eq_ok_iff {column : Column} :
    frame.required name = .ok column ↔ frame.column? name = some column := by
  unfold required
  cases frame.column? name with
  | none => simp [fail]
  | some other => simp

theorem present_eq_ok_iff {α : Type} {cells : List (Option α)} {values : List α} :
    present name cells = .ok values ↔ cells = values.map some := by
  rw [← mapM_id_eq_some_iff, present]
  cases cells.mapM id with
  | none => simp [fail]
  | some other => simp

theorem floatCells_eq_ok_iff {column : Column} {cells : List (Option Float)} :
    floatCells column = .ok cells ↔ column = .floats cells := by
  cases column <;> simp [floatCells, fail]

theorem counterCells_eq_ok_iff {column : Column} {cells : List (Option UInt64)} :
    counterCells column = .ok cells ↔ column = .counters cells := by
  cases column <;> simp [counterCells, fail]

theorem floats_eq_ok_iff {values : List Float} :
    frame.floats name = .ok values ↔ frame.column? name = some (.floats (values.map some)) := by
  simp [floats, Outcome.bind_eq_ok_iff, required_eq_ok_iff, floatCells_eq_ok_iff, present_eq_ok_iff]

theorem counters_eq_ok_iff {values : List UInt64} :
    frame.counters name = .ok values ↔ frame.column? name = some (.counters (values.map some)) := by
  simp [counters, Outcome.bind_eq_ok_iff, required_eq_ok_iff, counterCells_eq_ok_iff,
    present_eq_ok_iff]

theorem markers_eq_ok_iff {timeSteps : List Float} {markers : Markers Float}
    (htimeStep : frame.column? ColumnName.timeStep = some (.floats (timeSteps.map some))) :
    frame.markers = .ok markers ↔ ∃ column labels, frame.column? ColumnName.event = some column ∧
      labelCells column = .ok labels ∧ markers = .ofLabels timeSteps labels := by
  have hpresent : (timeSteps.map some).map (·.getD 0) = timeSteps := by
    rw [List.map_map]
    exact List.map_id timeSteps
  simp only [Frame.markers, Outcome.bind_eq_ok_iff, required_eq_ok_iff, floatCells_eq_ok_iff, htimeStep]
  constructor
  · rintro ⟨timeStep, htimeStep, column, hcolumn, labels, hlabels, cells, rfl, hmarkers⟩
    cases htimeStep
    cases hmarkers
    exact ⟨column, labels, hcolumn, hlabels, by rw [hpresent]⟩
  · rintro ⟨column, labels, hcolumn, hlabels, rfl⟩
    exact ⟨_, rfl, column, hcolumn, labels, hlabels, _, rfl, by rw [hpresent]; rfl⟩

/-- A series is derived from a frame exactly if the frame yields the cells of that series. -/
theorem series_eq_ok_iff {window : Nat} {s : Series Float} :
    frame.series window = .ok s ↔
      1 ≤ window ∧ ∃ cells, frame.Yields cells ∧ s = cells.series window := by
  rw [Frame.series]
  by_cases hwindow : window = 0
  · subst hwindow
    simp [fail, bind, Except.bind]
  · rw [if_neg hwindow]
    simp only [Outcome.bind_eq_ok_iff, floats_eq_ok_iff, counters_eq_ok_iff, Outcome.within_eq_ok_iff]
    constructor
    · rintro ⟨timeSteps, htimeStep, totalSucc, htotalSucc, get, hget, put, hput, delete, hdelete,
        failureTotal, hfailureTotal, markers, hmarkers, hseries⟩
      obtain ⟨column, labels, hcolumn, hlabels, rfl⟩ := (markers_eq_ok_iff htimeStep).1 hmarkers
      cases hseries
      exact ⟨Nat.one_le_iff_ne_zero.2 hwindow,
        ⟨timeSteps, totalSucc, get, put, delete, failureTotal, labels⟩,
        ⟨htimeStep, htotalSucc, hget, hput, hdelete, hfailureTotal, column, hcolumn, hlabels⟩, rfl⟩
    · rintro ⟨-, cells, h, rfl⟩
      obtain ⟨column, hcolumn, hlabels⟩ := h.event
      exact ⟨_, h.timeStep, _, h.totalSucc, _, h.get, _, h.put, _, h.delete, _, h.failureTotal, _,
        (markers_eq_ok_iff h.timeStep).2 ⟨column, _, hcolumn, hlabels, rfl⟩, rfl⟩

end Frame

end TelemetryCharts
