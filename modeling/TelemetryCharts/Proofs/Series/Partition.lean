import TelemetryCharts.Proofs.Series.Alignment
import TelemetryCharts.Proofs.Series.Counters
import TelemetryCharts.Proofs.Series.Merging
import TelemetryCharts.Proofs.Table.Texts

/-!
# Markers as a partition of rows

Each tracked event in a row that is kept has one marker, and there are no other markers. An event is
signalled by the label that is the text of a cell, whatever the kind of the column, so a label in
quotes counts, and one in other letters does not.
-/

namespace TelemetryCharts

namespace Table.Sheet

/-- Says that the text of the event cell in a row is the label of an event. -/
def Signals (sheet : Sheet) (row : Nat) (kind : Event) : Prop :=
  sheet.contentAt ColumnName.event row = labelText kind

instance (sheet : Sheet) (row : Nat) (kind : Event) : Decidable (sheet.Signals row kind) :=
  inferInstanceAs (Decidable (_ = _))

/-- How many rows of a table are kept when it is loaded. -/
def kept (sheet : Sheet) (truncate : Option Nat) : Nat :=
  truncate.elim sheet.rows.length (min · sheet.rows.length)

end Table.Sheet

theorem Event.label_inj {kind other : Event} (h : kind.label = other.label) : kind = other := by
  have hkind := ofLabel?_eq_some_iff.2 h
  rw [ofLabel?_eq_some_iff.2 rfl] at hkind
  exact Option.some.inj hkind

namespace Markers

section
variable {α : Type} {timeSteps : List α} {labels : List (Option String)} {kind : Event} {row : Nat}

/-- The rows of the markers that are found are in the order of the table. -/
theorem find_increasing (kind : Event) (timeSteps : List α) (labels : List (Option String)) :
    ((find kind timeSteps labels).map Marker.row).Pairwise (· < ·) := by
  have hpositions : (labels.zip timeSteps).zipIdx.Pairwise fun p q => p.2 < q.2 := by
    apply List.Pairwise.of_map Prod.snd (S := (· < ·)) fun _ _ => id
    rw [List.zipIdx_map_snd]
    exact List.pairwise_lt_range'
  rw [find, List.map_filterMap, List.pairwise_filterMap]
  refine hpositions.imp fun {p q} hlt x hx y hy => ?_
  obtain ⟨marker, hmarker, rfl⟩ := Option.map_eq_some_iff.1 hx
  obtain ⟨later, hlater, rfl⟩ := Option.map_eq_some_iff.1 hy
  obtain ⟨-, hmarker⟩ := Option.ite_none_right_eq_some.1 hmarker
  obtain ⟨-, hlater⟩ := Option.ite_none_right_eq_some.1 hlater
  cases hmarker
  cases hlater
  exact hlt

theorem rowsOf_increasing (kind : Event) (timeSteps : List α) (labels : List (Option String)) :
    ((ofLabels timeSteps labels).rowsOf kind).Pairwise (· < ·) := by
  rw [rowsOf, get_ofLabels]
  split
  · exact find_increasing kind timeSteps labels
  · exact .nil

/-- The markers of a tracked event stand at the rows with its label. -/
theorem mem_rowsOf_ofLabels_iff (hlength : timeSteps.length = labels.length) :
    row ∈ (ofLabels timeSteps labels).rowsOf kind ↔
      kind ∈ Event.tracked ∧ labels[row]? = some (some kind.label) := by
  rw [rowsOf, get_ofLabels]
  split
  · next htracked =>
    simp only [List.mem_map, mem_find_iff, htracked, true_and]
    constructor
    · rintro ⟨marker, ⟨hlabel, -⟩, rfl⟩
      exact hlabel
    · intro hlabel
      have hrow : row < timeSteps.length := by
        rw [hlength]
        exact (List.getElem?_eq_some_iff.1 hlabel).1
      exact ⟨⟨row, timeSteps[row]⟩, ⟨hlabel, List.getElem?_eq_getElem hrow⟩, rfl⟩
  · next huntracked => simp [huntracked]

/-- If no kind has a row twice and no two kinds have one in common, then no row is merged twice. -/
theorem rows_nodup {markers : Markers α} (hrows : ∀ kind, (markers.rowsOf kind).Nodup)
    (hdisjoint : ∀ kind other row, row ∈ markers.rowsOf kind → row ∈ markers.rowsOf other →
      kind = other) : markers.rows.Nodup := by
  rw [markers.rows_perm.nodup_iff, List.nodup_flatten]
  constructor
  · intro l hl
    obtain ⟨kind, -, rfl⟩ := List.mem_map.1 hl
    exact hrows kind
  · have hkinds : Event.all.Nodup := by decide
    refine List.pairwise_map.2 (hkinds.imp fun {kind other} hne row hrow hother => ?_)
    exact hne (hdisjoint kind other row hrow hother)

theorem mem_rows_iff {markers : Markers α} : row ∈ markers.rows ↔ ∃ kind, row ∈ markers.rowsOf kind := by
  have hmerges := markers.merges_rows
  exact ⟨hmerges.exists_mem, fun ⟨kind, hrow⟩ => (hmerges.sublist kind).mem hrow⟩

end

/-- Says that markers divide the first `n` rows of a table up by the tracked events that they signal.
A row with such an event has one marker, which is of this kind, and all other rows have none. -/
structure Partitions {α : Type} (markers : Markers α) (sheet : Table.Sheet) (n : Nat) : Prop where
  count : ∀ row < n, ∀ kind ∈ Event.tracked,
    (markers.rowsOf kind).count row = if sheet.Signals row kind then 1 else 0
  increasing : ∀ kind, (markers.rowsOf kind).Pairwise (· < ·)
  disjoint : ∀ kind other row, row ∈ markers.rowsOf kind → row ∈ markers.rowsOf other → kind = other
  untracked : markers.entry? .stopProgram = none
  rows_increasing : markers.rows.Pairwise (· < ·)
  mem_rows : ∀ row, row ∈ markers.rows ↔ row < n ∧ ∃ kind ∈ Event.tracked, sheet.Signals row kind
  total : markers.total = markers.rows.length

/-- The markers of labels divide rows up if each label says what the row signals. -/
theorem partitions_ofLabels {α : Type} {timeSteps : List α} {labels : List (Option String)}
    {sheet : Table.Sheet} (hlength : timeSteps.length = labels.length)
    (hlabels : ∀ row < labels.length, ∀ kind : Event,
      labels[row]? = some (some kind.label) ↔ sheet.Signals row kind) :
    (ofLabels timeSteps labels).Partitions sheet labels.length := by
  have hincreasing := fun kind => rowsOf_increasing kind timeSteps labels
  have hmem : ∀ kind row, row ∈ (ofLabels timeSteps labels).rowsOf kind ↔
      kind ∈ Event.tracked ∧ row < labels.length ∧ sheet.Signals row kind := by
    intro kind row
    rw [mem_rowsOf_ofLabels_iff hlength]
    by_cases hrow : row < labels.length
    · rw [hlabels row hrow kind]
      simp only [hrow, true_and]
    · rw [List.getElem?_eq_none (Nat.not_lt.1 hrow)]
      simp only [hrow, false_and, and_false, reduceCtorEq]
  have hdisjoint : ∀ kind other row, row ∈ (ofLabels timeSteps labels).rowsOf kind →
      row ∈ (ofLabels timeSteps labels).rowsOf other → kind = other := by
    intro kind other row hrow hother
    rw [mem_rowsOf_ofLabels_iff hlength] at hrow hother
    have hsame := hrow.2.symm.trans hother.2
    exact Event.label_inj (Option.some.inj (Option.some.inj hsame))
  have hnodup : ∀ kind, ((ofLabels timeSteps labels).rowsOf kind).Nodup :=
    fun kind => (hincreasing kind).imp Nat.ne_of_lt
  refine ⟨?_, hincreasing, hdisjoint, rfl, ?_, ?_, (rows_interleave _).2.2.2.1.symm⟩
  · intro row hrow kind htracked
    rw [(hnodup kind).count]
    simp only [hmem, htracked, hrow, true_and]
  · have hsorted := (merges_rows _).pairwise fun kind => (hincreasing kind).imp Nat.le_of_lt
    exact hsorted.imp₂ (fun _ _ hle hne => Nat.lt_of_le_of_ne hle hne) (rows_nodup hnodup hdisjoint)
  · intro row
    rw [mem_rows_iff]
    simp only [hmem]
    constructor
    · rintro ⟨kind, htracked, hrow, hsignals⟩
      exact ⟨hrow, kind, htracked, hsignals⟩
    · rintro ⟨hrow, kind, htracked, hsignals⟩
      exact ⟨kind, htracked, hrow, hsignals⟩

end Markers

namespace Frame

/-- The labels of a loaded frame are the texts that the event cells of the rows that are kept are cast
to. -/
theorem exists_labels_of_load {fs : FileSystem} {path : Path} {truncate : Option Nat} {frame : Frame}
    (h : load fs path truncate = .ok frame) :
    ∃ content labels, fs.read path = .ok content ∧
      frame.column? ColumnName.event = some (.text labels) ∧
      labels.length = (Table.Sheet.ofBytes content.toList).kept truncate ∧
      ∀ row < labels.length, ∃ v, labels[row]? = some v ∧
        ((Table.Sheet.ofBytes content.toList).kind ColumnName.event).text?
          ((Table.Sheet.ofBytes content.toList).cells ColumnName.event)[row]?.join = some v := by
  obtain ⟨content, read, hcontent, hread, hmissing, rfl⟩ := exists_of_load h
  have hevent : ColumnName.event ∈ ColumnName.required := by decide
  obtain ⟨column, hcolumn⟩ := column?_isSome_of_missing hmissing hevent
  have htexts := Table.Kind.mapM_text? (Table.column?_of_read hread hcolumn)
  have hlength := length_of_mapM_eq_some htexts
  rw [Table.Sheet.cells, List.length_map] at hlength
  have hnormal : read.normalise.column? ColumnName.event = some (.text column.toTexts) := by
    rw [column?_normalise, hcolumn]
    rfl
  have htext : ∀ row < column.toTexts.length, ∃ v, column.toTexts[row]? = some v ∧
      ((Table.Sheet.ofBytes content.toList).kind ColumnName.event).text?
        ((Table.Sheet.ofBytes content.toList).cells ColumnName.event)[row]?.join = some v := by
    intro row hrow
    have hv := List.getElem?_eq_getElem hrow
    refine ⟨_, hv, ?_⟩
    rw [getElem?_of_mapM_eq_some htexts] at hv
    obtain ⟨cell, hcell, hsays⟩ := Option.bind_eq_some_iff.1 hv
    rw [hcell]
    exact hsays
  cases truncate with
  | none => exact ⟨content, column.toTexts, hcontent, hnormal, hlength, htext⟩
  | some n =>
    refine ⟨content, column.toTexts.take n, hcontent, ?_, ?_, fun row hrow => ?_⟩
    · rw [Option.elim_some, column?_take, hnormal]
      rfl
    · rw [List.length_take, hlength]
      rfl
    · rw [List.length_take] at hrow
      rw [List.getElem?_take_of_lt (by omega)]
      exact htext row (by omega)

end Frame

theorem Chart.derive_eq_ok_iff {chart : Chart} {fs : FileSystem} {s : Series Float} :
    chart.derive fs = .ok s ↔ ∃ frame, Frame.load fs chart.input chart.truncate = .ok frame ∧
      frame.series chart.window = .ok s := by
  simp only [derive, Outcome.bind_eq_ok_iff, Outcome.within_eq_ok_iff]

/-- Whatever a file holds, the markers of a series that is derived from it divide its rows up by the
events that they signal: the event cell of a row, split from its row and without its quotes, has to be
exactly the label of a tracked event. -/
theorem Chart.derive_markers {chart : Chart} {fs : FileSystem} {s : Series Float}
    (h : chart.derive fs = .ok s) :
    ∃ content, fs.read chart.input = .ok content ∧
      s.timeSteps.length = (Table.Sheet.ofBytes content.toList).kept chart.truncate ∧
      s.markers.Partitions (Table.Sheet.ofBytes content.toList) s.timeSteps.length := by
  obtain ⟨frame, hload, hseries⟩ := derive_eq_ok_iff.1 h
  obtain ⟨-, cells, hcells, rfl⟩ := Frame.series_eq_ok_iff.1 hseries
  obtain ⟨content, labels, hcontent, hevent, hkept, htexts⟩ := Frame.exists_labels_of_load hload
  obtain rfl : cells.labels = labels := by
    obtain ⟨column, hcolumn, hlabels⟩ := hcells.event
    rw [hevent] at hcolumn
    cases hcolumn
    cases hlabels
    rfl
  have hlength : cells.timeSteps.length = cells.labels.length := by
    obtain ⟨typed, htyped⟩ := Frame.exists_isTyped hload
    have htimeStep := htyped.rectangular.length_column? hcells.timeStep
    rw [Column.length, List.length_map] at htimeStep
    exact htimeStep.trans (htyped.rectangular.length_column? hevent).symm
  refine ⟨content, hcontent, hlength.trans hkept, ?_⟩
  show (Markers.ofLabels cells.timeSteps cells.labels).Partitions _ cells.timeSteps.length
  rw [hlength]
  apply Markers.partitions_ofLabels hlength
  intro row hrow kind
  obtain ⟨v, hv, hsays⟩ := htexts row hrow
  rw [hv, Option.some_inj]
  exact Table.Kind.text?_eq_label_iff hsays

/-- A table of events with labels in quotes and in other letters, an unknown one, an untracked one, a
blank one and one that is missing. -/
def eventTable : String :=
  "timeStep,totalSucc,getFailCount,putFailCount,deleteFailCount,event\n" ++
    "1,5,0,0,0,START_SERVER\n2,5,0,0,0,start_server\n3,5,0,0,0,\"STOP_SERVER\"\n4,5,0,0,0\n" ++
    "5,5,0,0,0,STOP_PROGRAM\n6,5,0,0,0, STOP_SERVER\n7,5,0,0,0,\"START_SERVER\"\n8,5,0,0,0,START_CLIENT\n"

theorem derive_markers_eventTable :
    ∃ s, { wholeChart with truncate := some 7 }.derive (.ofTable eventTable.toUTF8) = .ok s ∧
      s.markers.rows = [0, 2, 6] ∧
      s.markers.Partitions (Table.Sheet.ofBytes eventTable.toUTF8.toList) 7 := by
  obtain ⟨s, hs, hlength, hrows⟩ := exists_ok_of_any
    (o := { wholeChart with truncate := some 7 }.derive (.ofTable eventTable.toUTF8))
    (p := fun s => s.timeSteps.length = 7 ∧ s.markers.rows = [0, 2, 6]) (by decide +kernel)
  obtain ⟨content, hcontent, -, hmarkers⟩ := Chart.derive_markers hs
  rw [hlength] at hmarkers
  cases (FileSystem.read_ofTable eventTable.toUTF8).symm.trans hcontent
  exact ⟨s, hs, hrows, hmarkers⟩

end TelemetryCharts
