import TelemetryCharts.Proofs.Telemetry.Columns
import TelemetryCharts.Proofs.Table.Shape
import TelemetryCharts.Proofs.Text.Utf8

/-!
# Loading written telemetry

The frame that is loaded from a telemetry table holds the records that were written to it.
-/

namespace TelemetryCharts

theorem Record.table_eq (records : List Record) :
    Record.table records =
      String.ofList (Table.renderFields (ColumnName.all.map String.toList) ++
        '\n' :: Table.render (records.map cells)) := by
  simp [table, Table.render, Table.renderRow]

theorem columnNames_header :
    Table.columnNames ((Table.renderFields (ColumnName.all.map String.toList)).map some) =
      ColumnName.all := by
  rw [Table.columnNames, Table.lineFields_renderFields (by decide) (by decide)]
  decide

/-- Text that starts with a letter of the header is no compressed file. -/
theorem isCompressed_toUTF8 (cs : List Char) :
    Table.isCompressed (String.ofList ('t' :: cs)).toUTF8.toList = false := by
  rw [Text.toList_toUTF8, List.flatMap_cons, show String.utf8EncodeChar 't' = [0x74] from rfl]
  simp [Table.isCompressed, Table.compressionMarks, List.isPrefixOf]

theorem skipStart_cons (cs : List Char) :
    Table.skipStart (('t' :: cs).map some) = ('t' :: cs).map some := by
  simp [Table.skipStart]

theorem read_table (records : List Record) :
    Table.read (Record.table records).toUTF8.toList =
      (Record.columns? records).elim (.error .malformed) fun columns => .ok ⟨columns⟩ := by
  have hheader : ∃ cs, Table.renderFields (ColumnName.all.map String.toList) = 't' :: cs :=
    ⟨_, rfl⟩
  obtain ⟨cs, hcs⟩ := hheader
  have hnames := columnNames_header
  have hline := Table.nextLine_renderFields (ColumnName.all.map String.toList)
    ((Table.render (records.map Record.cells)).map some)
  rw [hcs] at hnames hline
  rw [Record.table_eq, hcs, List.cons_append, Table.read, isCompressed_toUTF8, Text.decode_toUTF8,
    skipStart_cons]
  simp only [List.map_cons, List.map_append, List.cons_append] at hnames hline ⊢
  simp only [Bool.false_eq_true, if_false, hline, hnames, Record.readColumns_render]
  cases Record.columns? records <;> rfl

/-- A file system that holds nothing but a table. -/
def FileSystem.ofTable (content : ByteArray) : FileSystem :=
  ⟨[(["t.csv".toList], .file content)], []⟩

theorem FileSystem.read_ofTable (content : ByteArray) :
    (ofTable content).read ⟨"t.csv".toList⟩ = .ok content := by
  rfl

/-- The columns of failure counters. -/
def ColumnName.failCounts : List String :=
  [getFailCount, putFailCount, deleteFailCount]

namespace Frame

theorem lookup_map (f : String → Column → Column) (columns : List (String × Column)) (name : String) :
    (columns.map fun (name, column) => (name, f name column)).lookup name =
      (columns.lookup name).map (f name) := by
  induction columns with
  | nil => rfl
  | cons entry columns ih =>
    obtain ⟨key, column⟩ := entry
    rw [List.map_cons, List.lookup_cons, List.lookup_cons, ih]
    by_cases heq : name = key
    · subst heq
      simp
    · rw [beq_eq_false_iff_ne.2 heq]

theorem column?_normalise (frame : Frame) (name : String) :
    frame.normalise.column? name = (frame.column? name).map (normalColumn name) :=
  lookup_map normalColumn frame.columns name

/-- A column of failure counters has no gaps once it is normalised. -/
theorem normalColumn_failCount {name : String} (hname : name ∈ ColumnName.failCounts)
    (column : Column) :
    normalColumn name column = .counters (column.toCounters.map fun n => some (n.getD 0)) := by
  have hother : name ∉ [ColumnName.timeStep, ColumnName.totalSucc] := by
    revert name
    decide
  rw [normalColumn, if_neg hother]
  exact if_pos hname

theorem column?_take (n : Nat) (frame : Frame) (name : String) :
    (frame.take n).column? name = (frame.column? name).map (Column.take n) :=
  lookup_map (fun _ => Column.take n) frame.columns name

/-- Says that a frame has a row for each of some records, in their order, and that its required
columns hold what the records do. An empty event is a missing cell. -/
structure Holds (frame : Frame) (records : List Record) : Prop where
  height : frame.height = records.length
  rectangular : frame.Rectangular
  timeStep : frame.column? ColumnName.timeStep =
    some (.floats (records.map fun r => some (Float.ofInt r.timeStep.toInt)))
  totalSucc : frame.column? ColumnName.totalSucc =
    some (.floats (records.map fun r => some (Float.ofNat r.totalSucc.toNat)))
  getFailCount : frame.column? ColumnName.getFailCount =
    some (.counters (records.map fun r => some r.get.failCount))
  putFailCount : frame.column? ColumnName.putFailCount =
    some (.counters (records.map fun r => some r.put.failCount))
  deleteFailCount : frame.column? ColumnName.deleteFailCount =
    some (.counters (records.map fun r => some r.delete.failCount))
  event : frame.column? ColumnName.event =
    some (.text (records.map fun r => if r.event = "" then none else some r.event))

section
variable {records : List Record} {columns : List (String × Column)}
  (hcolumns : Record.columns? records = some columns)
include hcolumns

theorem column?_of_columns? (position : Nat) {name : String}
    (hname : ColumnName.all[position]? = some name) :
    (Frame.mk columns).column? name = Record.columnAt? records position :=
  lookup_of_mapM hcolumns (by decide) hname

theorem rectangular_of_columns? : (Frame.mk columns).Rectangular := by
  rw [← Record.readColumns_render] at hcolumns
  exact rectangular_of_length (Table.length_of_readColumns hcolumns)

theorem column?_normalise_failCount (hsigned : Record.Signed records) (position : Nat)
    {name : String} (value : Record → UInt64) (hname : ColumnName.all[position]? = some name)
    (hfail : name ∈ ColumnName.failCounts)
    (hcells : ∀ r, (Record.cells r)[position]? = some (Decimal.digits (value r).toNat))
    (hvalue : ∀ r, value r ∈ r.counters) :
    (Frame.mk columns).normalise.column? name =
      some (.counters (records.map fun r => some (value r))) := by
  obtain ⟨column, hcolumn, -, hcounters⟩ :=
    Record.exists_counterColumn position value hcells fun r hr => hsigned r hr _ (hvalue r)
  rw [column?_normalise, column?_of_columns? hcolumns position hname, Record.columnAt?, hcolumn,
    Option.map_some, normalColumn_failCount hfail, hcounters, List.map_map]
  rfl

/-- The columns of written records hold these records once they have their fixed types. -/
theorem holds_normalise (hevents : Table.LooksLikeText (records.map fun r => r.event.toList)) :
    (Frame.mk columns).normalise.Holds records := by
  have hsome : (Record.columns? records).isSome = true := by
    rw [hcolumns]
    rfl
  have hsigned := (Record.columns?_isSome_iff hevents).1 hsome
  have hrectangular := (rectangular_of_columns? hcolumns).normalise
  have htimeStep : (Frame.mk columns).normalise.column? ColumnName.timeStep =
      some (.floats (records.map fun r => some (Float.ofInt r.timeStep.toInt))) := by
    obtain ⟨column, hcolumn, hfloats⟩ := Record.exists_timeStepColumn records
    rw [column?_normalise, column?_of_columns? hcolumns 0 rfl, hcolumn, ← hfloats]
    rfl
  refine ⟨?_, hrectangular, htimeStep, ?_, ?_, ?_, ?_, ?_⟩
  · rw [← hrectangular.length_column? htimeStep, Column.length, List.length_map]
  · obtain ⟨column, hcolumn, hfloats, -⟩ :=
      Record.exists_counterColumn 10 Record.totalSucc (fun r => rfl)
        fun r hr => hsigned r hr _ (by simp [Record.counters])
    rw [column?_normalise, column?_of_columns? hcolumns 10 rfl, Record.columnAt?,
      hcolumn, ← hfloats]
    rfl
  · exact column?_normalise_failCount hcolumns hsigned 2 (fun r => r.get.failCount) rfl
      (by decide) (fun r => rfl) (by simp [Record.counters])
  · exact column?_normalise_failCount hcolumns hsigned 5 (fun r => r.put.failCount) rfl
      (by decide) (fun r => rfl) (by simp [Record.counters])
  · exact column?_normalise_failCount hcolumns hsigned 8 (fun r => r.delete.failCount) rfl
      (by decide) (fun r => rfl) (by simp [Record.counters])
  · rw [column?_normalise, column?_of_columns? hcolumns 11 rfl,
      Record.eventColumn_eq hevents]
    rfl

end

theorem missing_eq_nil {frame : Frame} {records : List Record} (h : frame.normalise.Holds records) :
    frame.missing = [] := by
  have hpresent : ∀ {name : String} {column : Column},
      frame.normalise.column? name = some column → (frame.column? name).isNone = false := by
    intro name column hcolumn
    rw [column?_normalise] at hcolumn
    obtain ⟨original, horiginal, -⟩ := Option.map_eq_some_iff.1 hcolumn
    rw [horiginal]
    rfl
  simp [missing, ColumnName.required, hpresent h.timeStep, hpresent h.totalSucc,
    hpresent h.getFailCount, hpresent h.putFailCount, hpresent h.deleteFailCount, hpresent h.event]

theorem isFile_of_read {fs : FileSystem} {path : Path} {content : ByteArray}
    (h : fs.read path = .ok content) : fs.isFile path = true := by
  unfold FileSystem.read at h
  unfold FileSystem.isFile
  split at h
  · next heq => rw [heq]
  all_goals cases h

/-- The outcome of loading a file depends on what its content is read as. -/
theorem load_of_read {fs : FileSystem} {path : Path} {content : ByteArray}
    (h : fs.read path = .ok content) (truncate : Option Nat) :
    load fs path truncate =
      match Table.read content.toList with
      | .error e => .error (.failure
          ⟨[s!"Failed to read telemetry table: {Text.quoted path.text}"], .table e⟩)
      | .ok frame =>
        if frame.missing = [] then .ok (truncate.elim frame.normalise frame.normalise.take)
        else fail (.missingColumns path frame.missing) := by
  rw [load, isFile_of_read h, h]
  cases hread : Table.read content.toList with
  | error e =>
    simp [Except.mapError, bind, Except.bind, Outcome.within, Stop.within, Stop.ofCause, hread]
  | ok frame =>
    by_cases hmissing : frame.missing = []
    · simp [Except.mapError, bind, Except.bind, pure, Except.pure, Outcome.within, hread, hmissing]
    · simp [Except.mapError, bind, Except.bind, Outcome.within, hread, hmissing, fail]

section
variable {fs : FileSystem} {path : Path} {records : List Record}
  (hfile : fs.read path = .ok (Record.table records).toUTF8)
  (hevents : Table.LooksLikeText (records.map fun r => r.event.toList))
include hfile hevents

/-- Signed records are loaded as a frame that holds them, or as its first rows. -/
theorem exists_load_eq (hsigned : Record.Signed records) (truncate : Option Nat) :
    ∃ frame, frame.Holds records ∧ load fs path truncate = .ok (truncate.elim frame frame.take) := by
  obtain ⟨columns, hcolumns⟩ :=
    Option.isSome_iff_exists.1 ((Record.columns?_isSome_iff hevents).2 hsigned)
  have hholds := holds_normalise hcolumns hevents
  refine ⟨_, hholds, ?_⟩
  rw [load_of_read hfile, read_table, hcolumns]
  exact if_pos (missing_eq_nil hholds)

theorem load_eq_error (hunsigned : ¬ Record.Signed records) (truncate : Option Nat) :
    load fs path truncate = .error (.failure
      ⟨[s!"Failed to read telemetry table: {Text.quoted path.text}"], .table .malformed⟩) := by
  have hcolumns : Record.columns? records = none := by
    rw [← Record.columns?_isSome_iff hevents, Bool.not_eq_true, Option.isSome_eq_false_iff,
      Option.isNone_iff_eq_none] at hunsigned
    exact hunsigned
  rw [load_of_read hfile, read_table, hcolumns, Option.elim_none]

/-- The loader reads back what was written, whatever the events are. It fails exactly if a counter
exceeds the signed machine words, and then the table is malformed. -/
theorem load_written_table :
    ((∃ stop, load fs path none = .error stop) ↔
        ∃ r ∈ records, ∃ n ∈ r.counters, 2 ^ 63 ≤ n.toNat) ∧
      (∀ stop, load fs path none = .error stop → stop = .failure
        ⟨[s!"Failed to read telemetry table: {Text.quoted path.text}"], .table .malformed⟩) ∧
      ∀ frame, load fs path none = .ok frame → frame.Holds records := by
  by_cases hsigned : Record.Signed records
  · obtain ⟨frame, hholds, hload⟩ := exists_load_eq hfile hevents hsigned none
    rw [hload]
    refine ⟨⟨?_, ?_⟩, ?_, ?_⟩
    · rintro ⟨stop, hstop⟩
      cases hstop
    · rintro ⟨r, hr, n, hn, hlarge⟩
      have hsmall := hsigned r hr n hn
      omega
    · intro stop hstop
      cases hstop
    · intro loaded hloaded
      cases hloaded
      exact hholds
  · rw [load_eq_error hfile hevents hsigned none]
    refine ⟨⟨?_, fun _ => ⟨_, rfl⟩⟩, ?_, ?_⟩
    · rintro -
      simpa [Record.Signed, Nat.not_lt] using hsigned
    · intro stop hstop
      cases hstop
      rfl
    · intro loaded hloaded
      cases hloaded

end

/-- Events that have to be quoted, and counters just below the first that cannot be read. -/
def awkwardRecords : List Record :=
  [⟨-1, ⟨0, 9223372036854775807, 0.5⟩, .none, .none, 1, "a,\"b\"\r\n\r"⟩,
    ⟨3, .none, .none, .none, 0, "\""⟩, ⟨2, .none, .none, .none, 2, ""⟩]

theorem load_awkwardRecords :
    ∃ frame, load (.ofTable (Record.table awkwardRecords).toUTF8) ⟨"t.csv".toList⟩ none = .ok frame ∧
      frame.Holds awkwardRecords := by
  have hsigned : ∀ r ∈ awkwardRecords, ∀ n ∈ r.counters, n.toNat < 2 ^ 63 := by
    simp [awkwardRecords, Record.counters, Counts.none]
  have hevents : Table.LooksLikeText (awkwardRecords.map fun r => r.event.toList) := by
    refine .inr ⟨"\"".toList, ?_, ?_, ?_⟩ <;> decide
  obtain ⟨herror, -, hholds⟩ := load_written_table (FileSystem.read_ofTable _) hevents
  cases hload : load (.ofTable (Record.table awkwardRecords).toUTF8) ⟨"t.csv".toList⟩ none with
  | ok frame => exact ⟨frame, rfl, hholds frame hload⟩
  | error stop =>
    obtain ⟨r, hr, n, hn, hlarge⟩ := herror.1 ⟨stop, hload⟩
    have hsmall := hsigned r hr n hn
    omega

end Frame

end TelemetryCharts
