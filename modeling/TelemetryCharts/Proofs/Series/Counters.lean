import TelemetryCharts.Proofs.Series.Outcomes
import TelemetryCharts.Proofs.Table.Contents

/-!
# Where loaded counters come from

The failure counter in a row of a loaded frame comes from the text of one cell and from the kind
that the sample gave to the column of that cell. So two rows with the same texts have the same
counters wherever the kinds of their columns agree on these texts, and then they have the same
failures in sum.
-/

namespace TelemetryCharts

namespace Table

/-- The text of the cell in a row of the column with a name. -/
def Sheet.contentAt (sheet : Sheet) (name : String) (row : Nat) : Decoded :=
  contentOf (sheet.cells name)[row]?.join

/-- Says that columns of two kinds agree on a text: they are of the same kind, or the text is blank,
or it is an integer, which has to fit into a double if one of the kinds is that of doubles. -/
def Kind.AgreeOn (k k' : Kind) (content : Decoded) : Prop :=
  k = k' ∨ Blank content ∨ ∃ cs i, content = cs.map some ∧ Decimal.integer? cs = some i ∧
    (i.natAbs ≤ 2 ^ 53 ∨ k ≠ .float ∧ k' ≠ .float)

/-- Says that the cells in a row of one table and in a row of another have the same text, in columns
of kinds that agree on it. -/
def Sheet.Alike (sheet sheet' : Sheet) (row row' : Nat) (name : String) : Prop :=
  sheet.contentAt name row = sheet'.contentAt name row' ∧
    (sheet.kind name).AgreeOn (sheet'.kind name) (sheet.contentAt name row)

/-- Two cells with the same text come to the same counter if the kinds of their columns agree on
that text. -/
theorem Kind.counter?_eq_of_agreeOn {k k' : Kind} {cell cell' : Option Field}
    {v v' : Option UInt64} (h : k.counter? cell = some v) (h' : k'.counter? cell' = some v')
    (hcontent : contentOf cell = contentOf cell') (hagree : k.AgreeOn k' (contentOf cell)) :
    v = v' := by
  rcases hagree with rfl | hblank | ⟨cs, i, hcs, hi, hsmall⟩
  · have hplain := counter?_content h
    have hplain' := counter?_content h'
    rw [← hcontent, hplain] at hplain'
    exact Option.some.inj hplain'
  · rw [counter?_of_blank h hblank, counter?_of_blank h' (hcontent ▸ hblank)]
  · have hk : k = float → i.natAbs ≤ 2 ^ 53 := fun hfloat =>
      hsmall.resolve_right fun hne => hne.1 hfloat
    have hk' : k' = float → i.natAbs ≤ 2 ^ 53 := fun hfloat =>
      hsmall.resolve_right fun hne => hne.2 hfloat
    rw [counter?_of_integer? hi h hcs hk, counter?_of_integer? hi h' (hcontent ▸ hcs) hk']

end Table

/-- The sum of failures in a row is that of the counters in this row. -/
theorem getElem?_sumFailures? {get put delete totals : List UInt64}
    (h : sumFailures? get put delete = some totals) {i : Nat} {g p d : UInt64}
    (hg : get[i]? = some g) (hp : put[i]? = some p) (hd : delete[i]? = some d) :
    ∃ n, sumCounters? g p d = some n ∧ totals[i]? = some n := by
  fun_induction sumFailures? get put delete generalizing totals i with
  | case1 g' gets p' puts d' deletes ih =>
    obtain ⟨total, htotal, h⟩ := Option.bind_eq_some_iff.1 h
    obtain ⟨rest, hrest, h⟩ := Option.bind_eq_some_iff.1 h
    cases h
    cases i with
    | zero =>
      cases hg
      cases hp
      cases hd
      exact ⟨total, htotal, rfl⟩
    | succ i => exact ih hrest hg hp hd
  | case2 get put delete hempty =>
    cases get with
    | nil => cases hg
    | cons g' gets =>
      cases put with
      | nil => cases hp
      | cons p' puts =>
        cases delete with
        | nil => cases hd
        | cons d' deletes => exact absurd rfl (hempty g' gets p' puts d' deletes rfl rfl)

namespace Frame

/-- The counter in a row of the column with a name. -/
def counterAt? (frame : Frame) (name : String) (row : Nat) : Option UInt64 :=
  match frame.column? name with
  | some (.counters cells) => cells[row]?.join
  | _ => none

theorem counterAt?_of_column? {frame : Frame} {name : String} {counters : List UInt64}
    (h : frame.column? name = some (.counters (counters.map some))) (row : Nat) :
    frame.counterAt? name row = counters[row]? := by
  rw [counterAt?, h]
  dsimp only
  rw [List.getElem?_map]
  cases counters[row]? <;> rfl

/-- The sum of failures in a row of a series is that of the counters in this row of its frame. -/
theorem failureTotal_of_series {frame : Frame} {window : Nat} {s : Series Float}
    (h : frame.series window = .ok s) {row : Nat} {g p d : UInt64}
    (hg : frame.counterAt? ColumnName.getFailCount row = some g)
    (hp : frame.counterAt? ColumnName.putFailCount row = some p)
    (hd : frame.counterAt? ColumnName.deleteFailCount row = some d) :
    ∃ n, sumCounters? g p d = some n ∧ s.failureTotal[row]? = some n := by
  obtain ⟨-, cells, hcells, rfl⟩ := series_eq_ok_iff.1 h
  rw [counterAt?_of_column? hcells.get] at hg
  rw [counterAt?_of_column? hcells.put] at hp
  rw [counterAt?_of_column? hcells.delete] at hd
  have htotals := hcells.failureTotal
  rw [failureTotals] at htotals
  split at htotals
  · cases htotals
  · cases hsum : sumFailures? cells.get cells.put cells.delete with
    | none =>
      rw [hsum] at htotals
      cases htotals
    | some totals =>
      rw [hsum] at htotals
      cases htotals
      exact getElem?_sumFailures? hsum hg hp hd

section
variable {fs fs' : FileSystem} {path path' : Path} {truncate truncate' : Option Nat}
  {frame frame' : Frame} {content content' : ByteArray}

/-- A failure counter of a loaded frame is the one that its cell comes to, or zero if the cell comes
to none. -/
theorem exists_counter?_of_load (hload : load fs path truncate = .ok frame)
    (hcontent : fs.read path = .ok content) {name : String} (hname : name ∈ ColumnName.failCounts)
    {row : Nat} (hrow : row < frame.height) :
    ∃ v, ((Table.Sheet.ofBytes content.toList).kind name).counter?
        ((Table.Sheet.ofBytes content.toList).cells name)[row]?.join = some v ∧
      frame.counterAt? name row = some (v.getD 0) := by
  obtain ⟨typed, htyped⟩ := exists_isTyped hload
  obtain ⟨content', read, hcontent', hread, hmissing, hframe⟩ := exists_of_load hload
  cases hcontent.symm.trans hcontent'
  have hrequired : name ∈ ColumnName.required := by
    revert name
    decide
  obtain ⟨column, hcolumn⟩ := column?_isSome_of_missing hmissing hrequired
  have hcounters := Table.Kind.mapM_counter? (Table.column?_of_read hread hcolumn)
  -- Truncation keeps the first rows, and this row is among them.
  obtain ⟨kept, hkept, hcell⟩ : ∃ kept : List (Option UInt64),
      frame.column? name = some (.counters (kept.map fun n => some (n.getD 0))) ∧
        ∀ row < kept.length, kept[row]? = column.toCounters[row]? := by
    have hnormal : read.normalise.column? name =
        some (.counters (column.toCounters.map fun n => some (n.getD 0))) := by
      rw [column?_normalise, hcolumn, Option.map_some, normalColumn_failCount hname]
    rw [hframe]
    cases truncate with
    | none => exact ⟨column.toCounters, hnormal, fun _ _ => rfl⟩
    | some n =>
      refine ⟨column.toCounters.take n, ?_, fun row hrow => ?_⟩
      · rw [Option.elim_some, column?_take, hnormal, Option.map_some, Column.take, List.map_take]
      · rw [List.length_take] at hrow
        rw [List.getElem?_take_of_lt (by omega)]
  have hlength := htyped.rectangular.length_column? hkept
  rw [Column.length, List.length_map] at hlength
  have hv : column.toCounters[row]? = some kept[row] := by
    rw [← hcell row (by omega), List.getElem?_eq_getElem]
  rw [getElem?_of_mapM_eq_some hcounters] at hv
  obtain ⟨cell, hfield, hcounter⟩ := Option.bind_eq_some_iff.1 hv
  refine ⟨kept[row], ?_, ?_⟩
  · rw [hfield]
    exact hcounter
  · rw [counterAt?, hkept]
    simp [List.getElem?_map, List.getElem?_eq_getElem (by omega : row < kept.length)]

/-- Two failure counters that are loaded from the same text are the same if the kinds of their
columns agree on it, whatever the other rows of the two tables hold. So two rows that are alike in
all of their failure counters have as many failures in sum. -/
theorem counters_of_alike (hload : load fs path truncate = .ok frame)
    (hload' : load fs' path' truncate' = .ok frame') (hcontent : fs.read path = .ok content)
    (hcontent' : fs'.read path' = .ok content') :
    let Alike := (Table.Sheet.ofBytes content.toList).Alike (Table.Sheet.ofBytes content'.toList)
    ∀ row < frame.height, ∀ row' < frame'.height,
      (∀ name ∈ ColumnName.failCounts, Alike row row' name →
        ∃ n, frame.counterAt? name row = some n ∧ frame'.counterAt? name row' = some n) ∧
      ((∀ name ∈ ColumnName.failCounts, Alike row row' name) →
        ∀ window window' s s', frame.series window = .ok s → frame'.series window' = .ok s' →
          ∃ n, s.failureTotal[row]? = some n ∧ s'.failureTotal[row']? = some n) := by
  intro Alike row hrow row' hrow'
  have hcounter : ∀ name ∈ ColumnName.failCounts, Alike row row' name →
      ∃ n, frame.counterAt? name row = some n ∧ frame'.counterAt? name row' = some n := by
    rintro name hname ⟨hsame, hagree⟩
    obtain ⟨v, hv, hn⟩ := exists_counter?_of_load hload hcontent hname hrow
    obtain ⟨v', hv', hn'⟩ := exists_counter?_of_load hload' hcontent' hname hrow'
    rw [Table.Kind.counter?_eq_of_agreeOn hv hv' hsame hagree] at hn
    exact ⟨v'.getD 0, hn, hn'⟩
  refine ⟨hcounter, fun halike window window' s s' hs hs' => ?_⟩
  have hcounters := fun name hname => hcounter name hname (halike name hname)
  obtain ⟨g, hg, hg'⟩ := hcounters ColumnName.getFailCount (by decide)
  obtain ⟨p, hp, hp'⟩ := hcounters ColumnName.putFailCount (by decide)
  obtain ⟨d, hd, hd'⟩ := hcounters ColumnName.deleteFailCount (by decide)
  obtain ⟨n, hsum, hn⟩ := failureTotal_of_series hs hg hp hd
  obtain ⟨n', hsum', hn'⟩ := failureTotal_of_series hs' hg' hp' hd'
  obtain rfl := Option.some.inj (hsum.symm.trans hsum')
  exact ⟨n, hn, hn'⟩

end

/-- A table whose counters of failed reads are doubles. -/
def fractionTable : String :=
  "timeStep,event,totalSucc,getFailCount,putFailCount,deleteFailCount\n" ++
    "1,,5,1.5,2,3\n2,,6,7,,3\n"

/-- A table whose counters of failed reads are texts. -/
def wordTable : String :=
  "timeStep,event,totalSucc,getFailCount,putFailCount,deleteFailCount\n" ++
    "1,,5,1.5,2,3\n2,,6,x,,3\n3,,5,7,,3\n"

/-- The fraction of a counter is dropped where it is read as a double, but a text with a fraction is
no counter. -/
theorem counterAt?_wordTable :
    ∃ frame frame',
      load (.ofTable fractionTable.toUTF8) ⟨"t.csv".toList⟩ none = .ok frame ∧
      load (.ofTable wordTable.toUTF8) ⟨"t.csv".toList⟩ none = .ok frame' ∧
      (∀ name ∈ ColumnName.failCounts,
        (Table.Sheet.ofBytes fractionTable.toUTF8.toList).contentAt name 0 =
          (Table.Sheet.ofBytes wordTable.toUTF8.toList).contentAt name 0) ∧
      (frame.counterAt? ColumnName.getFailCount 0 = some 1 ∧
        (frame.series 1).toOption.map Series.failureTotal = some [6, 10]) ∧
      frame'.counterAt? ColumnName.getFailCount 0 = some 0 ∧
        (frame'.series 1).toOption.map Series.failureTotal = some [5, 3, 10] := by
  obtain ⟨frame, hload, hframe⟩ := exists_ok_of_any
    (o := load (.ofTable fractionTable.toUTF8) ⟨"t.csv".toList⟩ none)
    (p := fun frame => frame.counterAt? ColumnName.getFailCount 0 = some 1 ∧
      (frame.series 1).toOption.map Series.failureTotal = some [6, 10]) (by decide +kernel)
  obtain ⟨frame', hload', hframe'⟩ := exists_ok_of_any
    (o := load (.ofTable wordTable.toUTF8) ⟨"t.csv".toList⟩ none)
    (p := fun frame => frame.counterAt? ColumnName.getFailCount 0 = some 0 ∧
      (frame.series 1).toOption.map Series.failureTotal = some [5, 3, 10]) (by decide +kernel)
  exact ⟨frame, frame', hload, hload', by decide +kernel, hframe, hframe'⟩

/-- An integer is the same counter as a double and as a text. -/
theorem alike_fractionTable :
    ∀ name ∈ ColumnName.failCounts, (Table.Sheet.ofBytes fractionTable.toUTF8.toList).Alike
      (Table.Sheet.ofBytes wordTable.toUTF8.toList) 1 2 name := by
  have hcells : ∀ name ∈ ColumnName.failCounts,
      (Table.Sheet.ofBytes fractionTable.toUTF8.toList).contentAt name 1 =
          (Table.Sheet.ofBytes wordTable.toUTF8.toList).contentAt name 2 ∧
        (name = ColumnName.getFailCount ∨
          (Table.Sheet.ofBytes fractionTable.toUTF8.toList).kind name =
            (Table.Sheet.ofBytes wordTable.toUTF8.toList).kind name) := by
    decide +kernel
  have hseven : (Table.Sheet.ofBytes fractionTable.toUTF8.toList).contentAt
      ColumnName.getFailCount 1 = ['7'].map some := by
    decide +kernel
  intro name hname
  obtain ⟨hsame, rfl | hkind⟩ := hcells name hname
  · exact ⟨hsame, .inr (.inr ⟨['7'], 7, hseven, by decide, .inl (by decide)⟩)⟩
  · exact ⟨hsame, .inl hkind⟩

theorem counters_of_wordTable :
    ∃ frame frame',
      load (.ofTable fractionTable.toUTF8) ⟨"t.csv".toList⟩ none = .ok frame ∧
      load (.ofTable wordTable.toUTF8) ⟨"t.csv".toList⟩ none = .ok frame' ∧
      (∀ name ∈ ColumnName.failCounts,
        ∃ n, frame.counterAt? name 1 = some n ∧ frame'.counterAt? name 2 = some n) ∧
      ∃ s s', frame.series 1 = .ok s ∧ frame'.series 1 = .ok s' ∧
        ∃ n, s.failureTotal[1]? = some n ∧ s'.failureTotal[2]? = some n := by
  obtain ⟨frame, hload, hheight, hseries⟩ := exists_ok_of_any
    (o := load (.ofTable fractionTable.toUTF8) ⟨"t.csv".toList⟩ none)
    (p := fun frame => 1 < frame.height ∧ (frame.series 1).toOption.any (fun _ => True) = true)
    (by decide +kernel)
  obtain ⟨frame', hload', hheight', hseries'⟩ := exists_ok_of_any
    (o := load (.ofTable wordTable.toUTF8) ⟨"t.csv".toList⟩ none)
    (p := fun frame => 2 < frame.height ∧ (frame.series 1).toOption.any (fun _ => True) = true)
    (by decide +kernel)
  obtain ⟨hcounters, htotals⟩ := counters_of_alike hload hload' (FileSystem.read_ofTable _)
    (FileSystem.read_ofTable _) 1 hheight 2 hheight'
  obtain ⟨s, hs, -⟩ := exists_ok_of_any hseries
  obtain ⟨s', hs', -⟩ := exists_ok_of_any hseries'
  exact ⟨frame, frame', hload, hload',
    fun name hname => hcounters name hname (alike_fractionTable name hname),
    s, s', hs, hs', htotals alike_fractionTable 1 1 s s' hs hs'⟩

end Frame

end TelemetryCharts
