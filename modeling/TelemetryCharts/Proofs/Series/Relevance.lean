import TelemetryCharts.Proofs.Series.Partition
import TelemetryCharts.Proofs.Table.Likeness
import TelemetryCharts.Proofs.Table.Sampling

/-!
# What series depend on

A series depends on the cells of the required columns and on the kinds of these columns, whatever stands
in other columns and wherever a column stands. In a regular table the kinds depend on these cells too.
Elsewhere they may not: a quote that stands in a cell of another column by itself makes one line of
several rows, so that there are fewer cells from which the kinds are found.
-/

namespace TelemetryCharts

namespace Markers

variable {α : Type}

/-- Whether a row has a marker depends on whether its label is that of the kind. -/
theorem find_eq (kind : Event) (timeSteps : List α) (labels : List (Option String)) :
    find kind timeSteps labels =
      ((labels.map fun label => decide (label = some kind.label)).zip timeSteps).zipIdx.filterMap
        fun ((signals, timeStep), row) => if signals then some ⟨row, timeStep⟩ else none := by
  rw [find, List.zip_map_left, List.zipIdx_map, List.filterMap_map]
  apply List.filterMap_congr
  rintro ⟨⟨label, timeStep⟩, row⟩ -
  simp

theorem ofLabels_congr {labels labels' : List (Option String)} (timeSteps : List α)
    (h : ∀ kind : Event, labels.map (fun label => decide (label = some kind.label)) =
      labels'.map fun label => decide (label = some kind.label)) :
    ofLabels timeSteps labels = ofLabels timeSteps labels' := by
  have hfind : ∀ kind, find kind timeSteps labels = find kind timeSteps labels' := by
    intro kind
    rw [find_eq, find_eq, h]
  simp only [ofLabels, hfind]

end Markers

namespace Frame

/-- Says that two frames have the same values in their required columns, and the labels of events in the
same rows. -/
structure Agree (frame other : Frame) : Prop where
  values : ∀ name ∈ ColumnName.required, name ≠ ColumnName.event →
    frame.column? name = other.column? name
  events : ∃ labels labels', frame.column? ColumnName.event = some (.text labels) ∧
    other.column? ColumnName.event = some (.text labels') ∧
    ∀ kind : Event, labels.map (fun label => decide (label = some kind.label)) =
      labels'.map fun label => decide (label = some kind.label)

section
variable {frame other : Frame} {name : String}

theorem floats_congr (h : frame.column? name = other.column? name) :
    frame.floats name = other.floats name := by
  rw [floats, floats, required, required, h]

theorem counters_congr (h : frame.column? name = other.column? name) :
    frame.counters name = other.counters name := by
  rw [counters, counters, required, required, h]

theorem Agree.markers_eq (h : frame.Agree other) : frame.markers = other.markers := by
  obtain ⟨labels, labels', hlabels, hlabels', hsame⟩ := h.events
  have htimeStep := h.values ColumnName.timeStep (by decide) (by decide)
  have hmarkers : ∀ timeSteps : List Float,
      Markers.ofLabels timeSteps labels = Markers.ofLabels timeSteps labels' :=
    fun timeSteps => Markers.ofLabels_congr timeSteps hsame
  simp only [markers, required, htimeStep, hlabels, hlabels', labelCells]
  cases other.column? ColumnName.timeStep with
  | none => rfl
  | some column =>
    cases column with
    | floats cells => exact congrArg Except.ok (hmarkers _)
    | text | integers | booleans | counters => rfl

/-- The series of frames that agree are the same, and so are the errors. -/
theorem Agree.series_eq (h : frame.Agree other) (window : Nat) :
    frame.series window = other.series window := by
  rw [series, series, floats_congr (h.values ColumnName.timeStep (by decide) (by decide)),
    floats_congr (h.values ColumnName.totalSucc (by decide) (by decide)),
    counters_congr (h.values ColumnName.getFailCount (by decide) (by decide)),
    counters_congr (h.values ColumnName.putFailCount (by decide) (by decide)),
    counters_congr (h.values ColumnName.deleteFailCount (by decide) (by decide)), h.markers_eq]

theorem Agree.take (h : frame.Agree other) (n : Nat) : (frame.take n).Agree (other.take n) := by
  obtain ⟨labels, labels', hlabels, hlabels', hsame⟩ := h.events
  refine ⟨fun name hname hother => ?_, labels.take n, labels'.take n, ?_, ?_, fun kind => ?_⟩
  · rw [column?_take, column?_take, h.values name hname hother]
  · rw [column?_take, hlabels]
    rfl
  · rw [column?_take, hlabels']
    rfl
  · rw [List.map_take, List.map_take, hsame]

/-- Frames whose required columns are alike agree once the columns have their fixed types. -/
theorem agree_normalise (h : ∀ name ∈ ColumnName.required, ∃ column column',
      frame.column? name = some column ∧ other.column? name = some column' ∧ column.Alike column') :
    frame.normalise.Agree other.normalise := by
  constructor
  · intro name hname hother
    have hcases : name ∈ [ColumnName.timeStep, ColumnName.totalSucc] ∨ name ∈ ColumnName.failCounts := by
      revert name
      decide
    obtain ⟨column, column', hcolumn, hcolumn', halike⟩ := h name hname
    rw [column?_normalise, column?_normalise, hcolumn, hcolumn', Option.map_some, Option.map_some]
    rcases hcases with hfloats | hcounters
    · rw [normalColumn, if_pos hfloats, normalColumn, if_pos hfloats, halike.toFloats]
    · rw [normalColumn_failCount hcounters, normalColumn_failCount hcounters, halike.toCounters]
  · obtain ⟨column, column', hcolumn, hcolumn', halike⟩ := h ColumnName.event (by decide)
    refine ⟨column.toTexts, column'.toTexts, ?_, ?_, halike.labels⟩
    · rw [column?_normalise, hcolumn]
      rfl
    · rw [column?_normalise, hcolumn']
      rfl

end

/-- The frames that are loaded from tables with the same texts in required columns of the same kinds
agree. -/
theorem agree_of_load {fs fs' : FileSystem} {path path' : Path} {truncate : Option Nat}
    {frame frame' : Frame} {content content' : ByteArray}
    (hload : load fs path truncate = .ok frame) (hload' : load fs' path' truncate = .ok frame')
    (hcontent : fs.read path = .ok content) (hcontent' : fs'.read path' = .ok content')
    (hcells : ∀ name ∈ ColumnName.required,
      (Table.Sheet.ofBytes content.toList).contents name =
          (Table.Sheet.ofBytes content'.toList).contents name ∧
        (Table.Sheet.ofBytes content.toList).kind name =
          (Table.Sheet.ofBytes content'.toList).kind name) :
    frame.Agree frame' := by
  obtain ⟨bytes, read, hbytes, hread, hmissing, rfl⟩ := exists_of_load hload
  obtain ⟨bytes', read', hbytes', hread', hmissing', rfl⟩ := exists_of_load hload'
  cases hcontent.symm.trans hbytes
  cases hcontent'.symm.trans hbytes'
  have hagree : read.normalise.Agree read'.normalise := by
    apply agree_normalise
    intro name hname
    obtain ⟨column, hcolumn⟩ := column?_isSome_of_missing hmissing hname
    obtain ⟨column', hcolumn'⟩ := column?_isSome_of_missing hmissing' hname
    obtain ⟨hcontents, hkind⟩ := hcells name hname
    have hfields := Table.column?_of_read hread hcolumn
    rw [hkind] at hfields
    exact ⟨column, column', hcolumn, hcolumn', Table.Kind.alike_of_contents hcontents hfields
      (Table.column?_of_read hread' hcolumn')⟩
  cases truncate with
  | none => exact hagree
  | some n => exact hagree.take n

end Frame

/-- What is derived from a table that loads depends on its required columns only. If two tables have the
same cells there, row by row, and the same kinds of columns, then the same series or the same error is
derived from them. In regular tables the kinds are the same wherever the cells are. -/
theorem Chart.derive_of_sameCells {chart other : Chart} {fs fs' : FileSystem} {frame frame' : Frame}
    {content content' : ByteArray}
    (hload : Frame.load fs chart.input chart.truncate = .ok frame)
    (hload' : Frame.load fs' other.input other.truncate = .ok frame')
    (hcontent : fs.read chart.input = .ok content) (hcontent' : fs'.read other.input = .ok content')
    (htruncate : chart.truncate = other.truncate) (hwindow : chart.window = other.window) :
    let sheet := Table.Sheet.ofBytes content.toList
    let sheet' := Table.Sheet.ofBytes content'.toList
    ((∀ name ∈ ColumnName.required,
        sheet.contents name = sheet'.contents name ∧ sheet.kind name = sheet'.kind name) →
      chart.derive fs = other.derive fs') ∧
    (Table.Sheet.IsRegularFile content.toList → Table.Sheet.IsRegularFile content'.toList →
      (∀ name ∈ ColumnName.required, sheet.fields name = sheet'.fields name) →
      chart.derive fs = other.derive fs') := by
  intro sheet sheet'
  have hderive : (∀ name ∈ ColumnName.required,
      sheet.contents name = sheet'.contents name ∧ sheet.kind name = sheet'.kind name) →
      chart.derive fs = other.derive fs' := by
    intro hcells
    rw [← htruncate] at hload'
    have hagree := Frame.agree_of_load hload hload' hcontent hcontent' hcells
    rw [derive, derive, ← htruncate, hload, hload', ← hwindow]
    show (frame.series chart.window).within _ = (frame'.series chart.window).within _
    rw [hagree.series_eq]
  refine ⟨hderive, fun hregular hregular' hfields => hderive fun name hname => ?_⟩
  constructor
  · rw [sheet.contents_eq, sheet'.contents_eq, hfields name hname]
  · obtain ⟨bytes, read, hbytes, hread, -⟩ := Frame.exists_of_load hload
    obtain ⟨bytes', read', hbytes', hread', -⟩ := Frame.exists_of_load hload'
    cases hcontent.symm.trans hbytes
    cases hcontent'.symm.trans hbytes'
    rw [Table.Sheet.kind_eq hread hregular, Table.Sheet.kind_eq hread' hregular']
    show Table.Kind.unify (((sheet.fields name).take _).filterMap _) = _
    rw [hfields name hname]

deriving instance DecidableEq for Table.Field

/-- A table of two rows. -/
def plainTable : String :=
  "timeStep,event,totalSucc,getFailCount,putFailCount,deleteFailCount\n" ++
    "1,START_SERVER,5,,0,0\n2,,5,1.5,0,0\n"

theorem derive_plainTable :
    ∃ s, wholeChart.derive (.ofTable plainTable.toUTF8) = .ok s ∧ s.failureTotal = [0, 1] :=
  exists_ok_of_any (by decide +kernel)

/-- The same table with notes behind it that end in quotes. -/
def notedTable : String :=
  "timeStep,event,totalSucc,getFailCount,putFailCount,deleteFailCount,note\n" ++
    "1,START_SERVER,5,,0,0,5\"\n2,,5,1.5,0,0,5\"\n"

/-- The same table in another order, with row numbers and with notes between quotes. -/
def shuffledTable : String :=
  "row,event,deleteFailCount,note,putFailCount,getFailCount,totalSucc,timeStep\r\n" ++
    "7,START_SERVER,0,\"5\"\"\n\",0,,5,1\r\n8,,0,x,0,1.5,5,2\r\n"

/-- With quotes in its notes, the two rows of a table are one line, and so the kind of its counters is not
found from the second row. -/
theorem derive_notedTable :
    ∃ frame frame',
      Frame.load (.ofTable notedTable.toUTF8) wholeChart.input none = .ok frame ∧
      Frame.load (.ofTable plainTable.toUTF8) wholeChart.input none = .ok frame' ∧
      (∀ name ∈ ColumnName.required, (Table.Sheet.ofBytes notedTable.toUTF8.toList).fields name =
        (Table.Sheet.ofBytes plainTable.toUTF8.toList).fields name) ∧
      wholeChart.derive (.ofTable notedTable.toUTF8) ≠ wholeChart.derive (.ofTable plainTable.toUTF8) := by
  obtain ⟨s, hs, htotals⟩ := exists_ok_of_any (o := wholeChart.derive (.ofTable notedTable.toUTF8))
    (p := fun s => s.failureTotal = [0, 0]) (by decide +kernel)
  obtain ⟨s', hs', htotals'⟩ := derive_plainTable
  obtain ⟨frame, hload, -⟩ := Chart.derive_eq_ok_iff.1 hs
  obtain ⟨frame', hload', -⟩ := Chart.derive_eq_ok_iff.1 hs'
  refine ⟨frame, frame', hload, hload', by decide +kernel, fun hsame => ?_⟩
  rw [hs, hs'] at hsame
  obtain rfl := Except.ok.inj hsame
  rw [htotals] at htotals'
  cases htotals'

theorem derive_shuffledTable :
    ∃ frame frame',
      Frame.load (.ofTable shuffledTable.toUTF8) wholeChart.input none = .ok frame ∧
      Frame.load (.ofTable plainTable.toUTF8) wholeChart.input none = .ok frame' ∧
      wholeChart.derive (.ofTable shuffledTable.toUTF8) =
        wholeChart.derive (.ofTable plainTable.toUTF8) := by
  obtain ⟨frame, hload, -⟩ := exists_ok_of_any
    (o := Frame.load (.ofTable shuffledTable.toUTF8) wholeChart.input none) (p := fun _ => True)
    (by decide +kernel)
  obtain ⟨s', hs', -⟩ := derive_plainTable
  obtain ⟨frame', hload', -⟩ := Chart.derive_eq_ok_iff.1 hs'
  have hderive := (Chart.derive_of_sameCells hload hload' (FileSystem.read_ofTable _)
    (FileSystem.read_ofTable _) rfl rfl).2
  exact ⟨frame, frame', hload, hload',
    hderive (by decide +kernel) (by decide +kernel) (by decide +kernel)⟩

end TelemetryCharts
