import Mathlib.Data.List.Basic
import TelemetryCharts.Proofs.Traversal
import TelemetryCharts.Table.Frame

/-!
# The shape of loaded frames

All columns of a frame that was loaded are as long as the frame is high, and so are their casts and
their first cells.
-/

namespace TelemetryCharts

namespace Column

@[simp] theorem length_take (n : Nat) (column : Column) :
    (column.take n).length = min n column.length := by
  cases column <;> simp [take, length]

theorem length_toFloats (column : Column) : column.toFloats.length = column.length := by
  cases column <;> simp [toFloats, length]

theorem length_toCounters (column : Column) : column.toCounters.length = column.length := by
  cases column <;> simp [toCounters, length]

theorem length_toTexts (column : Column) : column.toTexts.length = column.length := by
  cases column <;> simp [toTexts, length]

end Column

theorem Table.Kind.length_column? {k : Kind} {fields : List (Option Field)} {column : Column}
    (h : k.column? fields = some column) : column.length = fields.length := by
  cases k <;>
    (obtain ⟨cells, hcells, rfl⟩ := Option.map_eq_some_iff.1 h
     exact length_of_mapM_eq_some hcells)

namespace Frame

/-- Says that all columns of a frame are as long as the frame is high. -/
def Rectangular (frame : Frame) : Prop :=
  ∀ entry ∈ frame.columns, entry.2.length = frame.height

/-- A frame whose columns have a common length is rectangular. -/
theorem rectangular_of_length {frame : Frame} {n : Nat}
    (h : ∀ entry ∈ frame.columns, entry.2.length = n) : frame.Rectangular := by
  intro entry hentry
  rw [h entry hentry, height]
  cases hcolumns : frame.columns with
  | nil =>
    rw [hcolumns] at hentry
    cases hentry
  | cons first columns => exact (h first (by simp [hcolumns])).symm

theorem Rectangular.length_column? {frame : Frame} (h : frame.Rectangular) {name : String}
    {column : Column} (hcolumn : frame.column? name = some column) :
    column.length = frame.height := by
  obtain ⟨before, after, hcolumns, -⟩ := List.lookup_eq_some_iff.1 hcolumn
  exact h (name, column) (by simp [hcolumns])

theorem length_normalColumn (name : String) (column : Column) :
    (normalColumn name column).length = column.length := by
  unfold normalColumn
  split
  · exact column.length_toFloats
  split
  · rw [Column.length, List.length_map, column.length_toCounters]
  split
  · exact column.length_toTexts
  · rfl

theorem Rectangular.normalise {frame : Frame} (h : frame.Rectangular) : frame.normalise.Rectangular := by
  apply rectangular_of_length (n := frame.height)
  intro entry hentry
  obtain ⟨original, horiginal, rfl⟩ := List.mem_map.1 hentry
  rw [length_normalColumn, h original horiginal]

theorem Rectangular.take {frame : Frame} (h : frame.Rectangular) (n : Nat) :
    (frame.take n).Rectangular := by
  apply rectangular_of_length (n := min n frame.height)
  intro entry hentry
  obtain ⟨original, horiginal, rfl⟩ := List.mem_map.1 hentry
  rw [Column.length_take, h original horiginal]

end Frame

/-- A column that is read has a cell in each row. -/
theorem Table.length_of_readColumns {names : List String} {text : Decoded}
    {columns : List (String × Column)} (h : readColumns names text = some columns) :
    ∀ entry ∈ columns, entry.2.length = (rows (names.length - 1) text).length := by
  intro entry hentry
  simp only [readColumns] at h
  split at h
  · cases h
  · obtain ⟨⟨name, position⟩, -, hcolumn⟩ := exists_of_mem_of_mapM_eq_some h hentry
    simp only [Option.map_eq_some_iff] at hcolumn
    obtain ⟨column, hcolumn, rfl⟩ := hcolumn
    rw [Kind.length_column? hcolumn, List.length_map]

theorem Table.rectangular_of_read {bytes : List UInt8} {frame : Frame} (h : read bytes = .ok frame) :
    frame.Rectangular := by
  simp only [read] at h
  split at h
  · cases h
  split at h
  · cases h
  split at h
  · next hcolumns =>
    cases h
    exact Frame.rectangular_of_length (length_of_readColumns hcolumns)
  · cases h

end TelemetryCharts
