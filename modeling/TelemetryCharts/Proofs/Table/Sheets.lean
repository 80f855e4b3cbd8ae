import Mathlib.Data.List.Basic
import TelemetryCharts.Proofs.Traversal
import TelemetryCharts.Table.Frame

/-!
# The cells behind a frame

A table is split into cells before any of them is read. Each column of the frame that is read from
it comes from its own cells, and from the other cells only by way of the kind that the first lines
give to the column.
-/

namespace TelemetryCharts.Table

/-- A table that has been split: the names of its columns, the fields of the lines that decide on
the kinds of the columns, and all rows. -/
structure Sheet where
  names : List String
  sample : List (List Field)
  rows : List Row

namespace Sheet

/-- The table in a text that begins with its header. -/
def ofText (text : Decoded) : Sheet where
  names := columnNames (nextLine false text).1
  sample := (lines sampleSize (nextLine false text).2).map fun line => lineFields (trimLine line)
  rows := Table.rows ((columnNames (nextLine false text).1).length - 1) (nextLine false text).2

/-- The table that bytes hold. -/
def ofBytes (bytes : List UInt8) : Sheet :=
  ofText (skipStart (Text.decode bytes))

/-- The kind of the column with a name. -/
def kind (sheet : Sheet) (name : String) : Kind :=
  columnKind sheet.sample (sheet.names.idxOf name)

/-- The cells of the column with a name. A row that is too short has none. -/
def cells (sheet : Sheet) (name : String) : List (Option Field) :=
  sheet.rows.map fun row => row.fields[sheet.names.idxOf name]?.map Field.trim

/-- The column at a position. -/
def columnAt? (sheet : Sheet) (position : Nat) : Option Column :=
  (columnKind sheet.sample position).column?
    (sheet.rows.map fun row => row.fields[position]?.map Field.trim)

end Sheet

/-- The column with a name is the one that was read from the position of the name. -/
theorem lookup_eq_of_mapM {names : List String} {read? : Nat → Option Column} {first : Nat}
    {columns : List (String × Column)}
    (h : (names.zipIdx first).mapM (fun (name, position) =>
      (read? position).map fun column => (name, column)) = some columns) (name : String) :
    columns.lookup name = if name ∈ names then read? (first + names.idxOf name) else none := by
  induction names generalizing first columns with
  | nil =>
    cases h
    rfl
  | cons other names ih =>
    rw [List.zipIdx_cons] at h
    obtain ⟨entry, rest, hentry, hrest, rfl⟩ := mapM_cons_eq_some_iff.1 h
    obtain ⟨column, hcolumn, rfl⟩ := Option.map_eq_some_iff.1 hentry
    by_cases hother : name = other
    · rw [hother, List.lookup_cons_self, if_pos (by simp), List.idxOf_cons_self, Nat.add_zero,
        hcolumn]
    · rw [List.lookup_cons, beq_eq_false_iff_ne.2 hother, ih hrest,
        List.idxOf_cons_ne names (Ne.symm hother)]
      simp only [List.mem_cons, hother, false_or, Nat.succ_eq_add_one, Nat.add_assoc, Nat.add_comm 1]

/-- A column of a frame is read from the cells of its name, as the kind that the sample gives it. -/
theorem column?_of_read {bytes : List UInt8} {frame : Frame} (h : read bytes = .ok frame)
    {name : String} {column : Column} (hcolumn : frame.column? name = some column) :
    ((Sheet.ofBytes bytes).kind name).column? ((Sheet.ofBytes bytes).cells name) = some column := by
  simp only [read] at h
  split at h
  · cases h
  split at h
  · cases h
  next text hne =>
  split at h
  · next columns hcolumns =>
    cases h
    simp only [readColumns] at hcolumns
    split at hcolumns
    · cases hcolumns
    have hread : (Sheet.ofBytes bytes).names.zipIdx.mapM (fun (name, position) =>
      ((Sheet.ofBytes bytes).columnAt? position).map fun column => (name, column)) = some columns :=
      hcolumns
    rw [Frame.column?, lookup_eq_of_mapM hread] at hcolumn
    split at hcolumn
    · rw [Nat.zero_add] at hcolumn
      exact hcolumn
    · cases hcolumn
  · cases h

/-- No row of a table that is read has more cells than there are columns. -/
theorem overfull_of_read {bytes : List UInt8} {frame : Frame} (h : read bytes = .ok frame) :
    ∀ row ∈ (Sheet.ofBytes bytes).rows, row.overfull = false := by
  simp only [read] at h
  split at h
  · cases h
  split at h
  · cases h
  next text hne =>
  split at h
  · next columns hcolumns =>
    simp only [readColumns] at hcolumns
    split at hcolumns
    · cases hcolumns
    · next hfull =>
      intro row hrow
      rw [Bool.not_eq_true, List.any_eq_false] at hfull
      exact Bool.eq_false_iff.2 (hfull row hrow)
  · cases h

end TelemetryCharts.Table
