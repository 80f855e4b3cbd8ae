import TelemetryCharts.Proofs.Series.Cells
import TelemetryCharts.Proofs.Series.Markers
import TelemetryCharts.Proofs.Series.Windows
import TelemetryCharts.Proofs.Telemetry.Loading
import TelemetryCharts.Session.Execute

/-!
# Series of written telemetry

The series that is derived from a telemetry table describes the records that were written to it.
-/

namespace TelemetryCharts

namespace Record

/-- The records that are left by a truncation. -/
def kept (truncate : Option Nat) (records : List Record) : List Record :=
  truncate.elim records records.take

/-- The time step of a record as a double. -/
def time (r : Record) : Float :=
  Float.ofInt r.timeStep.toInt

/-- The successes of a record as a double. -/
def successes (r : Record) : Float :=
  Float.ofNat r.totalSucc.toNat

/-- Says that the failures of a record can be counted together. -/
def Summable (r : Record) : Prop :=
  r.get.failCount.toNat + r.put.failCount.toNat + r.delete.failCount.toNat < 2 ^ 64

theorem exists_failureTotals {records : List Record} (h : ∀ r ∈ records, r.Summable) :
    ∃ totals, totals.map some = records.map failureTotal? ∧
      failureTotals (records.map fun r => r.get.failCount) (records.map fun r => r.put.failCount)
        (records.map fun r => r.delete.failCount) = .ok totals := by
  have hsum : ∃ totals, totals.map some = records.map failureTotal? ∧
      sumFailures? (records.map fun r => r.get.failCount) (records.map fun r => r.put.failCount)
        (records.map fun r => r.delete.failCount) = some totals := by
    induction records with
    | nil => exact ⟨[], rfl, rfl⟩
    | cons r records ih =>
      obtain ⟨totals, htotals, hsum⟩ := ih fun r hr => h r (List.mem_cons_of_mem _ hr)
      have htotal : r.failureTotal? =
          some (r.get.failCount + r.put.failCount + r.delete.failCount) := if_pos (h r (by simp))
      refine ⟨(r.get.failCount + r.put.failCount + r.delete.failCount) :: totals, ?_, ?_⟩
      · rw [List.map_cons, List.map_cons, htotal, htotals]
      · simp only [List.map_cons, sumFailures?, hsum]
        rw [failureTotal?] at htotal
        rw [htotal]
        rfl
  obtain ⟨totals, htotals, hsum⟩ := hsum
  refine ⟨totals, htotals, ?_⟩
  simp [failureTotals, hsum, orOverflow]

/-- Events that are empty or known show that they are texts. -/
theorem looksLikeText_of_labels {records : List Record}
    (h : ∀ r ∈ records, r.event = "" ∨ ∃ kind : Event, r.event = kind.label) :
    Table.LooksLikeText (records.map fun r => r.event.toList) := by
  rw [Table.LooksLikeText, ← List.map_take]
  by_cases hempty : ∀ r ∈ records.take Table.sampleSize, r.event = ""
  · refine .inl fun text htext => ?_
    obtain ⟨r, hr, rfl⟩ := List.mem_map.1 htext
    simp [hempty r hr]
  · simp only [not_forall] at hempty
    obtain ⟨r, hr, hne⟩ := hempty
    obtain ⟨kind, hkind⟩ := (h r (List.mem_of_mem_take hr)).resolve_left hne
    refine .inr ⟨r.event.toList, List.mem_map.2 ⟨r, hr, rfl⟩, ?_⟩
    rw [hkind]
    cases kind <;> decide

end Record

namespace Frame

theorem Holds.take {frame : Frame} {records : List Record} (h : frame.Holds records) (n : Nat) :
    (frame.take n).Holds (records.take n) := by
  have htimeStep : (frame.take n).column? ColumnName.timeStep =
      some (.floats ((records.take n).map fun r => some (Float.ofInt r.timeStep.toInt))) := by
    rw [column?_take, h.timeStep, Option.map_some, Column.take, List.map_take]
  have hrectangular := h.rectangular.take n
  refine ⟨?_, hrectangular, htimeStep, ?_, ?_, ?_, ?_, ?_⟩
  · rw [← hrectangular.length_column? htimeStep, Column.length, List.length_map]
  · rw [column?_take, h.totalSucc, Option.map_some, Column.take, List.map_take]
  · rw [column?_take, h.getFailCount, Option.map_some, Column.take, List.map_take]
  · rw [column?_take, h.putFailCount, Option.map_some, Column.take, List.map_take]
  · rw [column?_take, h.deleteFailCount, Option.map_some, Column.take, List.map_take]
  · rw [column?_take, h.event, Option.map_some, Column.take, List.map_take]

/-- The cells of records, given their failures. -/
def Cells.ofRecords (records : List Record) (failureTotal : List UInt64) : Cells where
  timeSteps := records.map Record.time
  totalSucc := records.map Record.successes
  get := records.map fun r => r.get.failCount
  put := records.map fun r => r.put.failCount
  delete := records.map fun r => r.delete.failCount
  failureTotal := failureTotal
  labels := records.map fun r => if r.event = "" then none else some r.event

theorem Holds.exists_yields {frame : Frame} {records : List Record} (h : frame.Holds records)
    (hsummable : ∀ r ∈ records, r.Summable) :
    ∃ totals, totals.map some = records.map Record.failureTotal? ∧
      frame.Yields (.ofRecords records totals) := by
  obtain ⟨totals, htotals, hsum⟩ := Record.exists_failureTotals hsummable
  refine ⟨totals, htotals, ?_, ?_, ?_, ?_, ?_, hsum, _, h.event, rfl⟩
  · rw [h.timeStep, Cells.ofRecords, List.map_map]
    rfl
  · rw [h.totalSucc, Cells.ofRecords, List.map_map]
    rfl
  · rw [h.getFailCount, Cells.ofRecords, List.map_map]
    rfl
  · rw [h.putFailCount, Cells.ofRecords, List.map_map]
    rfl
  · rw [h.deleteFailCount, Cells.ofRecords, List.map_map]
    rfl

end Frame

section
variable {fs : FileSystem} {chart : Chart} {records : List Record}
  (hfile : fs.read chart.input = .ok (Record.table records).toUTF8)
  (hevents : ∀ r ∈ records, r.event = "" ∨ ∃ kind : Event, r.event = kind.label)
  (hsigned : ∀ r ∈ records, ∀ n ∈ r.counters, n.toNat < 2 ^ 63) (hwindow : 1 ≤ chart.window)
  (hsummable : ∀ r ∈ Record.kept chart.truncate records, r.Summable)
include hfile hevents hsigned hwindow hsummable

theorem Chart.exists_derive_eq :
    ∃ totals, totals.map some = (Record.kept chart.truncate records).map Record.failureTotal? ∧
      chart.derive fs = .ok ((Frame.Cells.ofRecords (Record.kept chart.truncate records) totals).series
        chart.window) := by
  obtain ⟨frame, hholds, hload⟩ := Frame.exists_load_eq hfile (Record.looksLikeText_of_labels hevents)
    hsigned chart.truncate
  have hkept : (chart.truncate.elim frame frame.take).Holds (Record.kept chart.truncate records) := by
    cases chart.truncate with
    | none => exact hholds
    | some n => exact hholds.take n
  obtain ⟨totals, htotals, hyields⟩ := hkept.exists_yields hsummable
  refine ⟨totals, htotals, ?_⟩
  rw [Chart.derive, Outcome.bind_eq_ok_iff]
  refine ⟨_, Outcome.within_eq_ok_iff.2 hload, Outcome.within_eq_ok_iff.2 ?_⟩
  exact Frame.series_eq_ok_iff.2 ⟨hwindow, _, hyields, rfl⟩

end

/-- A run of which everything but the last record is kept. -/
def briefRun : List Record :=
  [⟨-2, ⟨5, 2, 0.25⟩, .none, .none, 3, "START_SERVER"⟩, ⟨-1, .none, .none, .none, 0, ""⟩,
    ⟨0, .none, ⟨1, 1, 1e300⟩, ⟨9, 9223372036854775807, 0⟩, 0, "STOP_PROGRAM"⟩,
    ⟨7, .none, .none, .none, 0, "START_CLIENT"⟩]

/-- A chart of a whole table. -/
def wholeChart : Chart :=
  { Chart.new ⟨"t.csv".toList⟩ with window := 2 }

/-- A chart of the first three records of a table. -/
def briefChart : Chart :=
  { wholeChart with truncate := some 3 }

theorem briefRun_events : ∀ r ∈ briefRun, r.event = "" ∨ ∃ kind : Event, r.event = kind.label := by
  intro r hr
  simp only [briefRun, List.mem_cons, List.not_mem_nil, or_false] at hr
  rcases hr with rfl | rfl | rfl | rfl
  · exact .inr ⟨.startServer, rfl⟩
  · exact .inl rfl
  · exact .inr ⟨.stopProgram, rfl⟩
  · exact .inr ⟨.startClient, rfl⟩

theorem briefRun_signed : ∀ r ∈ briefRun, ∀ n ∈ r.counters, n.toNat < 2 ^ 63 := by
  simp [briefRun, Record.counters, Counts.none]

end TelemetryCharts
