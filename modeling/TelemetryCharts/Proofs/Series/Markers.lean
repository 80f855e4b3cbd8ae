import Mathlib.Data.List.Basic
import TelemetryCharts.Series.Markers
import TelemetryCharts.Telemetry.Record

/-!
# Markers of records

The markers of a tracked kind stand at the rows whose label is that of the kind. The markers in the
first rows of a table are those with the first positions.
-/

namespace TelemetryCharts

theorem Event.ofLabel?_eq_some_iff {label : String} {kind : Event} :
    ofLabel? label = some kind ↔ label = kind.label := by
  constructor
  · intro h
    have hfound := List.find?_some h
    exact (of_decide_eq_true hfound).symm
  · rintro rfl
    cases kind <;> rfl

section
variable {α : Type}

/-- The first elements are those with the first positions. -/
theorem zipIdx_take (l : List α) (first n : Nat) :
    (l.take n).zipIdx first = (l.zipIdx first).filter fun p => p.2 < first + n := by
  induction l generalizing first n with
  | nil => rw [List.take_nil, List.zipIdx_nil, List.filter_nil]
  | cons x l ih =>
    cases n with
    | zero =>
      rw [List.take_zero, List.zipIdx_nil, eq_comm, List.filter_eq_nil_iff]
      intro p hp
      have hlow := (List.mem_zipIdx hp).1
      simpa using hlow
    | succ n =>
      have hsame : ∀ k, (k < first + (n + 1)) = (k < first + 1 + n) := by
        intro k
        rw [Nat.add_assoc first 1, Nat.add_comm 1]
      have hfirst : decide ((x, first).2 < first + (n + 1)) = true := by simp
      rw [List.take_succ_cons, List.zipIdx_cons, List.zipIdx_cons, List.filter_cons, if_pos hfirst, ih]
      simp only [hsame]

namespace Markers

theorem get_ofLabels (timeSteps : List α) (labels : List (Option String)) (kind : Event) :
    (ofLabels timeSteps labels).get kind =
      if kind ∈ Event.tracked then find kind timeSteps labels else [] := by
  cases kind <;> rfl

/-- A marker of a kind stands at a row with the label of the kind, at the time step of that row. -/
theorem mem_find_iff {kind : Event} {timeSteps : List α} {labels : List (Option String)}
    {marker : Marker α} :
    marker ∈ find kind timeSteps labels ↔
      labels[marker.row]? = some (some kind.label) ∧
        timeSteps[marker.row]? = some marker.timeStep := by
  obtain ⟨row, timeStep⟩ := marker
  rw [find, List.mem_filterMap]
  constructor
  · rintro ⟨⟨⟨label, time⟩, i⟩, hmem, hmarker⟩
    have hcells := List.mem_zipIdx_iff_getElem?.1 hmem
    rw [List.getElem?_zip_eq_some] at hcells
    obtain ⟨hlabel, hmarker⟩ := Option.ite_none_right_eq_some.1 hmarker
    cases hmarker
    exact ⟨hlabel ▸ hcells.1, hcells.2⟩
  · rintro ⟨hlabel, htimeStep⟩
    refine ⟨((some kind.label, timeStep), row), ?_, if_pos rfl⟩
    rw [List.mem_zipIdx_iff_getElem?, List.getElem?_zip_eq_some]
    exact ⟨hlabel, htimeStep⟩

/-- The markers in the first rows are those with the first positions. -/
theorem find_take (kind : Event) (timeSteps : List α) (labels : List (Option String)) (n : Nat) :
    find kind (timeSteps.take n) (labels.take n) =
      (find kind timeSteps labels).filter fun marker => marker.row < n := by
  have htake : ((labels.take n).zip (timeSteps.take n)).zipIdx =
      (labels.zip timeSteps).zipIdx.filter fun p => p.2 < n := by
    rw [List.zip_eq_zipWith, List.zip_eq_zipWith, ← List.take_zipWith, zipIdx_take]
    simp only [Nat.zero_add]
  rw [find, find, htake, List.filterMap_filter, List.filter_filterMap]
  apply List.filterMap_congr
  rintro ⟨⟨label, timeStep⟩, row⟩ -
  by_cases hlabel : label = some kind.label
  · simp [hlabel, Option.filter]
  · simp [hlabel]

end Markers

end

end TelemetryCharts
