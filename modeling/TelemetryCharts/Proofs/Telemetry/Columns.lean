import Mathlib.Algebra.Group.Nat.Defs
import TelemetryCharts.Proofs.Table.Columns
import TelemetryCharts.Proofs.Table.Sheets
import TelemetryCharts.Proofs.Table.TextColumns
import TelemetryCharts.Telemetry.Table

/-!
# Columns of written telemetry

A telemetry table is read as one column for each of the twelve parts of a record. The table is
malformed exactly if one of its counters is no signed machine word.
-/

namespace TelemetryCharts

/-- The columns that were read are found by their names. -/
theorem lookup_of_mapM {names : List String} {read? : Nat → Option Column}
    {columns : List (String × Column)}
    (h : names.zipIdx.mapM (fun (name, position) =>
      (read? position).map fun column => (name, column)) = some columns)
    (hnodup : names.Nodup) {i : Nat} {name : String} (hname : names[i]? = some name) :
    columns.lookup name = read? i := by
  obtain ⟨hi, hget⟩ := List.getElem?_eq_some_iff.1 hname
  rw [Table.lookup_eq_of_mapM h, if_pos (List.mem_of_getElem? hname), Nat.zero_add, ← hget,
    hnodup.idxOf_getElem i hi]

namespace Record

/-- The counters of a record, in the order of the columns. -/
def counters (r : Record) : List UInt64 :=
  [r.get.count, r.get.failCount, r.put.count, r.put.failCount, r.delete.count, r.delete.failCount,
    r.totalSucc]

/-- The cells at one position of the records. -/
def cellsAt (records : List Record) (position : Nat) : List (List Char) :=
  (records.map cells).map fun row => row[position]?.getD []

/-- Says that all counters of records are signed machine words as well. -/
def Signed (records : List Record) : Prop :=
  ∀ r ∈ records, ∀ n ∈ r.counters, n.toNat < 2 ^ 63

theorem cellsAt_eq (position : Nat) {text : Record → List Char}
    (h : ∀ r, (cells r)[position]? = some (text r)) (records : List Record) :
    cellsAt records position = records.map text := by
  rw [cellsAt, List.map_map]
  apply List.map_congr_left
  intro r _
  rw [Function.comp_apply, h, Option.getD_some]

section
variable {records : List Record} (position : Nat) (value : Record → UInt64)
  (hcells : ∀ r, (cells r)[position]? = some (Decimal.digits (value r).toNat))
include hcells

theorem cellsAt_counter :
    cellsAt records position =
      (records.map fun r => ((value r).toNat : Int)).map Decimal.signedDigits := by
  rw [cellsAt_eq position hcells, List.map_map]
  apply List.map_congr_left
  intro r _
  rw [Function.comp_apply, Decimal.signedDigits_natCast]

theorem exists_counterColumn (h : ∀ r ∈ records, (value r).toNat < 2 ^ 63) :
    ∃ column, Table.writtenColumn? (cellsAt records position) = some column ∧
      column.toFloats = records.map (fun r => some (Float.ofNat (value r).toNat)) ∧
      column.toCounters = records.map fun r => some (value r) := by
  have hrange : ∀ i ∈ records.map fun r => ((value r).toNat : Int), Table.InRange i := by
    intro i hi
    obtain ⟨r, hr, rfl⟩ := List.mem_map.1 hi
    have hlt := h r hr
    constructor <;> omega
  obtain ⟨column, hcolumn, hfloats, hcounters, -⟩ := Table.exists_integerColumn hrange
  refine ⟨column, ?_, ?_, ?_⟩
  · rw [cellsAt_counter position value hcells, hcolumn]
  · rw [hfloats, List.map_map]
    rfl
  · rw [hcounters, List.map_map]
    apply List.map_congr_left
    intro r _
    rw [Function.comp_apply, Column.counterOfInt?_natCast (value r).toNat_lt, UInt64.ofNat_toNat]

theorem counterColumn_eq_none {r : Record} (hr : r ∈ records) (h : 2 ^ 63 ≤ (value r).toNat) :
    Table.writtenColumn? (cellsAt records position) = none := by
  rw [cellsAt_counter position value hcells]
  apply Table.integerColumn_eq_none (i := ((value r).toNat : Int))
  · exact List.mem_map.2 ⟨r, hr, rfl⟩
  · rintro ⟨-, hlt⟩
    omega

end

/-- The column at one position of written records. -/
def columnAt? (records : List Record) (position : Nat) : Option Column :=
  Table.writtenColumn? (cellsAt records position)

section
variable {records : List Record}

/-- The columns of written records. -/
def columns? (records : List Record) : Option (List (String × Column)) :=
  ColumnName.all.zipIdx.mapM fun (name, position) =>
    (columnAt? records position).map fun column => (name, column)

theorem readColumns_render (records : List Record) :
    Table.readColumns ColumnName.all ((Table.render (records.map cells)).map some) =
      columns? records := by
  apply Table.readColumns_render
  · decide
  · intro row hrow
    obtain ⟨r, -, rfl⟩ := List.mem_map.1 hrow
    rfl

theorem columnAt?_time (position : Nat) (time : Record → Float)
    (hcells : ∀ r, (cells r)[position]? = some (Decimal.tabular (time r))) :
    (columnAt? records position).isSome = true := by
  have h := Table.doubleColumn_isSome (records.map time)
  rw [List.map_map] at h
  rw [columnAt?, cellsAt_eq position hcells]
  exact h

theorem exists_timeStepColumn (records : List Record) :
    ∃ column, columnAt? records 0 = some column ∧
      column.toFloats = records.map fun r => some (Float.ofInt r.timeStep.toInt) := by
  have hrange : ∀ i ∈ records.map fun r => r.timeStep.toInt, Table.InRange i := by
    intro i hi
    obtain ⟨r, -, rfl⟩ := List.mem_map.1 hi
    exact ⟨r.timeStep.le_toInt, r.timeStep.toInt_lt⟩
  obtain ⟨column, hcolumn, hfloats, -, -⟩ := Table.exists_integerColumn hrange
  refine ⟨column, ?_, ?_⟩
  · rw [columnAt?, cellsAt_eq 0 (fun r => rfl), ← hcolumn, List.map_map]
    rfl
  · rw [hfloats, List.map_map]
    rfl

theorem eventColumn_eq (h : Table.LooksLikeText (records.map fun r => r.event.toList)) :
    columnAt? records 11 =
      some (.text (records.map fun r => if r.event = "" then none else some r.event)) := by
  rw [columnAt?, cellsAt_eq 11 (fun r => rfl), Table.textColumn_eq h, List.map_map]
  congr 2
  apply List.map_congr_left
  intro r _
  simp [String.toList_eq_nil_iff]

theorem columnAt?_counter (position : Nat) (value : Record → UInt64) (h : Signed records)
    (hcells : ∀ r, (cells r)[position]? = some (Decimal.digits (value r).toNat))
    (hvalue : ∀ r, value r ∈ r.counters) : (columnAt? records position).isSome = true := by
  obtain ⟨column, hcolumn, -⟩ :=
    exists_counterColumn position value hcells fun r hr => h r hr _ (hvalue r)
  rw [columnAt?, hcolumn]
  rfl

/-- Each counter of a record has a column of its own. -/
theorem exists_position_of_mem_counters {r : Record} {n : UInt64} (hn : n ∈ r.counters) :
    ∃ entry ∈ ColumnName.all.zipIdx, ∃ value : Record → UInt64, value r = n ∧
      ∀ r, (cells r)[entry.2]? = some (Decimal.digits (value r).toNat) := by
  simp only [counters, List.mem_cons, List.not_mem_nil, or_false] at hn
  rcases hn with rfl | rfl | rfl | rfl | rfl | rfl | rfl
  · exact ⟨("getCount", 1), by decide, fun r => r.get.count, rfl, fun r => rfl⟩
  · exact ⟨("getFailCount", 2), by decide, fun r => r.get.failCount, rfl, fun r => rfl⟩
  · exact ⟨("putCount", 4), by decide, fun r => r.put.count, rfl, fun r => rfl⟩
  · exact ⟨("putFailCount", 5), by decide, fun r => r.put.failCount, rfl, fun r => rfl⟩
  · exact ⟨("deleteCount", 7), by decide, fun r => r.delete.count, rfl, fun r => rfl⟩
  · exact ⟨("deleteFailCount", 8), by decide, fun r => r.delete.failCount, rfl, fun r => rfl⟩
  · exact ⟨("totalSucc", 10), by decide, fun r => r.totalSucc, rfl, fun r => rfl⟩

/-- Records can be read exactly if no counter exceeds the signed machine words. -/
theorem columns?_isSome_iff (h : Table.LooksLikeText (records.map fun r => r.event.toList)) :
    (columns? records).isSome = true ↔ Signed records := by
  constructor
  · intro hsome r hr n hn
    by_contra hlarge
    obtain ⟨entry, hentry, value, rfl, hcells⟩ := exists_position_of_mem_counters hn
    have hnone : columns? records = none := by
      apply mapM_eq_none_of_mem hentry
      simp only [columnAt?, counterColumn_eq_none _ value hcells hr (Nat.le_of_not_lt hlarge),
        Option.map_none]
    rw [hnone] at hsome
    cases hsome
  · intro hsigned
    obtain ⟨column, hcolumn, -⟩ := exists_timeStepColumn records
    have htimeStep : (columnAt? records 0).isSome = true := by rw [hcolumn]; rfl
    have hevent : (columnAt? records 11).isSome = true := by rw [eventColumn_eq h]; rfl
    apply mapM_isSome
    simp only [ColumnName.all, List.zipIdx_cons, List.zipIdx_nil, List.forall_mem_cons,
      Option.isSome_map, List.not_mem_nil, false_imp_iff, implies_true, and_true]
    refine ⟨htimeStep, ?_, ?_, ?_, ?_, ?_, ?_, ?_, ?_, ?_, ?_, hevent⟩
    · exact columnAt?_counter 1 (fun r => r.get.count) hsigned (fun r => rfl) (by simp [counters])
    · exact columnAt?_counter 2 (fun r => r.get.failCount) hsigned (fun r => rfl) (by simp [counters])
    · exact columnAt?_time 3 (fun r => r.get.time) fun r => rfl
    · exact columnAt?_counter 4 (fun r => r.put.count) hsigned (fun r => rfl) (by simp [counters])
    · exact columnAt?_counter 5 (fun r => r.put.failCount) hsigned (fun r => rfl) (by simp [counters])
    · exact columnAt?_time 6 (fun r => r.put.time) fun r => rfl
    · exact columnAt?_counter 7 (fun r => r.delete.count) hsigned (fun r => rfl) (by simp [counters])
    · exact columnAt?_counter 8 (fun r => r.delete.failCount) hsigned (fun r => rfl) (by simp [counters])
    · exact columnAt?_time 9 (fun r => r.delete.time) fun r => rfl
    · exact columnAt?_counter 10 (fun r => r.totalSucc) hsigned (fun r => rfl) (by simp [counters])

end

end Record

end TelemetryCharts
