import Mathlib.Algebra.Group.Nat.Defs
import TelemetryCharts.Proofs.Series.Truncation

/-!
# What comes of loaded frames

The required columns of a loaded frame have their types, so nothing but a missing time step or total
keeps a series from being derived, apart from a sum of failures that is no counter any more.
-/

namespace TelemetryCharts

/-- Says that an outcome is a failure, with nothing added to its cause, about which a text is said. -/
def Outcome.FailsWith {α : Type} (o : Outcome α) (text : String) : Prop :=
  ∃ cause, o = fail cause ∧ cause.message = text

/-- The failures in each row, summed up as natural numbers. -/
def rowFailures (get put delete : List UInt64) : List Nat :=
  (get.zip (put.zip delete)).map fun (g, p, d) => g.toNat + p.toNat + d.toNat

deriving instance DecidableEq for Column

/-- A test that the result passes shows that there is a result. -/
theorem exists_ok_of_any {ε α : Type} {o : Except ε α} {p : α → Prop} [DecidablePred p]
    (h : o.toOption.any (fun x => decide (p x)) = true) : ∃ x, o = .ok x ∧ p x := by
  cases o with
  | ok x => exact ⟨x, rfl, by simpa [Except.toOption] using h⟩
  | error e => cases h

theorem sumFailures?_eq_none_iff {get put delete : List UInt64} :
    sumFailures? get put delete = none ↔ ∃ total ∈ rowFailures get put delete, 2 ^ 64 ≤ total := by
  fun_induction sumFailures? get put delete with
  | case1 g gets p puts d deletes ih =>
    simp only [rowFailures, List.zip_cons_cons, List.map_cons, List.mem_cons, exists_eq_or_imp]
    rw [rowFailures] at ih
    rw [← ih, sumCounters?]
    split
    · next hsmall =>
      have hlarge : ¬ 2 ^ 64 ≤ g.toNat + p.toNat + d.toNat := Nat.not_le.2 hsmall
      simp only [hlarge, false_or]
      cases sumFailures? gets puts deletes <;> simp
    · next hlarge => exact iff_of_true rfl (.inl (Nat.not_lt.1 hlarge))
  | case2 get put delete hempty =>
    have hrows : get.zip (put.zip delete) = [] := by
      cases get with
      | nil => rfl
      | cons g gets =>
        cases put with
        | nil => rfl
        | cons p puts =>
          cases delete with
          | nil => rfl
          | cons d deletes => exact absurd rfl (hempty g gets p puts d deletes rfl rfl)
    simp [rowFailures, hrows]

namespace Frame

/-- Cells of the types that required columns have in a loaded frame. Failure counters are never
missing. -/
structure TypedCells where
  timeSteps : List (Option Float)
  totalSucc : List (Option Float)
  get : List UInt64
  put : List UInt64
  delete : List UInt64
  labels : List (Option String)

/-- The failures in each row of typed cells. -/
def TypedCells.failures (cells : TypedCells) : List Nat :=
  rowFailures cells.get cells.put cells.delete

/-- Says that the required columns of a frame hold typed cells, one for each row. -/
structure IsTyped (frame : Frame) (cells : TypedCells) : Prop where
  timeStep : frame.column? ColumnName.timeStep = some (.floats cells.timeSteps)
  totalSucc : frame.column? ColumnName.totalSucc = some (.floats cells.totalSucc)
  get : frame.column? ColumnName.getFailCount = some (.counters (cells.get.map some))
  put : frame.column? ColumnName.putFailCount = some (.counters (cells.put.map some))
  delete : frame.column? ColumnName.deleteFailCount = some (.counters (cells.delete.map some))
  event : frame.column? ColumnName.event = some (.text cells.labels)
  rectangular : frame.Rectangular

section
variable {frame : Frame}

theorem column?_isSome_of_missing {name : String} (h : frame.missing = [])
    (hname : name ∈ ColumnName.required) : ∃ column, frame.column? name = some column := by
  rw [missing, List.filter_eq_nil_iff] at h
  have hpresent := h name hname
  rwa [Bool.not_eq_true, Option.isNone_eq_false_iff, Option.isSome_iff_exists] at hpresent

/-- A frame with all required columns gets their types when it is normalised. -/
theorem exists_isTyped_normalise (h : frame.missing = []) (hframe : frame.Rectangular) :
    ∃ cells, frame.normalise.IsTyped cells := by
  have hcolumn : ∀ name ∈ ColumnName.required, ∃ column,
      frame.normalise.column? name = some (normalColumn name column) := by
    intro name hname
    obtain ⟨column, hcolumn⟩ := column?_isSome_of_missing h hname
    exact ⟨column, by rw [column?_normalise, hcolumn, Option.map_some]⟩
  -- A counter that is missing counts as zero, so the column is one of counters without gaps.
  have hcounters : ∀ name ∈ ColumnName.failCounts, ∃ counters : List UInt64,
      frame.normalise.column? name = some (.counters (counters.map some)) := by
    intro name hname
    obtain ⟨column, hcolumn⟩ := hcolumn name (List.mem_of_mem_drop (i := 3) hname)
    refine ⟨column.toCounters.map fun n => n.getD 0, ?_⟩
    rw [hcolumn, normalColumn_failCount hname, List.map_map]
    rfl
  obtain ⟨timeStep, htimeStep⟩ := hcolumn ColumnName.timeStep (by decide)
  obtain ⟨totalSucc, htotalSucc⟩ := hcolumn ColumnName.totalSucc (by decide)
  obtain ⟨event, hevent⟩ := hcolumn ColumnName.event (by decide)
  obtain ⟨get, hget⟩ := hcounters ColumnName.getFailCount (by decide)
  obtain ⟨put, hput⟩ := hcounters ColumnName.putFailCount (by decide)
  obtain ⟨delete, hdelete⟩ := hcounters ColumnName.deleteFailCount (by decide)
  exact ⟨⟨timeStep.toFloats, totalSucc.toFloats, get, put, delete, event.toTexts⟩, htimeStep,
    htotalSucc, hget, hput, hdelete, hevent, hframe.normalise⟩

/-- The first cells of each kind. -/
def TypedCells.take (n : Nat) (cells : TypedCells) : TypedCells where
  timeSteps := cells.timeSteps.take n
  totalSucc := cells.totalSucc.take n
  get := cells.get.take n
  put := cells.put.take n
  delete := cells.delete.take n
  labels := cells.labels.take n

theorem IsTyped.take {cells : TypedCells} (h : frame.IsTyped cells) (n : Nat) :
    (frame.take n).IsTyped (cells.take n) := by
  refine ⟨?_, ?_, ?_, ?_, ?_, ?_, h.rectangular.take n⟩
  · rw [column?_take, h.timeStep, Option.map_some, Column.take, TypedCells.take]
  · rw [column?_take, h.totalSucc, Option.map_some, Column.take, TypedCells.take]
  · rw [column?_take, h.get, Option.map_some, Column.take, TypedCells.take, List.map_take]
  · rw [column?_take, h.put, Option.map_some, Column.take, TypedCells.take, List.map_take]
  · rw [column?_take, h.delete, Option.map_some, Column.take, TypedCells.take, List.map_take]
  · rw [column?_take, h.event, Option.map_some, Column.take, TypedCells.take]

end

section
variable {fs : FileSystem} {path : Path} {truncate : Option Nat}

/-- A frame is loaded from a file that is read as a frame with all required columns. -/
theorem exists_of_load {frame : Frame} (h : load fs path truncate = .ok frame) :
    ∃ content read, fs.read path = .ok content ∧ Table.read content.toList = .ok read ∧
      read.missing = [] ∧ frame = truncate.elim read.normalise read.normalise.take := by
  cases hcontent : fs.read path with
  | error e =>
    rw [load_of_read_error hcontent] at h
    cases h
  | ok content =>
    rw [load_of_read hcontent] at h
    cases hread : Table.read content.toList with
    | error e =>
      rw [hread] at h
      cases h
    | ok read =>
      simp only [hread] at h
      split at h
      · next hmissing =>
        cases h
        exact ⟨content, read, rfl, hread, hmissing, rfl⟩
      · cases h

theorem exists_isTyped {frame : Frame} (h : load fs path truncate = .ok frame) :
    ∃ cells, frame.IsTyped cells := by
  obtain ⟨content, read, -, hread, hmissing, rfl⟩ := exists_of_load h
  obtain ⟨cells, hcells⟩ := exists_isTyped_normalise hmissing (Table.rectangular_of_read hread)
  cases truncate with
  | none => exact ⟨cells, hcells⟩
  | some n => exact ⟨cells.take n, hcells.take n⟩

/-- Loading ends with a frame or with a failure. -/
theorem load_ne_overflow : load fs path truncate ≠ .error .overflow := by
  intro h
  cases hcontent : fs.read path with
  | error e =>
    rw [load_of_read_error hcontent] at h
    cases h
  | ok content =>
    rw [load_of_read hcontent] at h
    cases hread : Table.read content.toList with
    | error e =>
      rw [hread] at h
      cases h
    | ok read =>
      simp only [hread] at h
      split at h <;> cases h

end

theorem fail_failsWith_iff {α : Type} {cause : Cause} {text : String} :
    (fail cause : Outcome α).FailsWith text ↔ cause.message = text := by
  constructor
  · rintro ⟨other, h, hmessage⟩
    cases h
    exact hmessage
  · exact fun hmessage => ⟨cause, rfl, hmessage⟩

section
variable {name : String}

theorem present_of_none_mem {α : Type} {cells : List (Option α)} (h : none ∈ cells) :
    present name cells = fail (.nullValue name) := by
  rw [present, mapM_eq_none_of_mem h rfl]

/-- Cells of which none is missing are those of some values. -/
theorem exists_eq_map_some {α : Type} {cells : List (Option α)} (h : none ∉ cells) :
    ∃ values : List α, cells = values.map some := by
  have hsome : (cells.mapM id).isSome = true := by
    apply mapM_isSome
    intro cell hcell
    cases cell with
    | none => exact absurd hcell h
    | some value => rfl
  obtain ⟨values, hvalues⟩ := Option.isSome_iff_exists.1 hsome
  exact ⟨values, mapM_id_eq_some_iff.1 hvalues⟩

theorem floats_eq_of_column? {frame : Frame} {cells : List (Option Float)}
    (h : frame.column? name = some (.floats cells)) : frame.floats name = present name cells := by
  rw [floats, required, h]
  rfl

end

section
variable {frame : Frame} {cells : TypedCells} (h : frame.IsTyped cells)
include h

/-- There are as many cells in each typed column. -/
theorem IsTyped.length_eq :
    cells.timeSteps.length = frame.height ∧ cells.totalSucc.length = frame.height ∧
      cells.get.length = frame.height ∧ cells.put.length = frame.height ∧
      cells.delete.length = frame.height ∧ cells.labels.length = frame.height := by
  have hget := h.rectangular.length_column? h.get
  have hput := h.rectangular.length_column? h.put
  have hdelete := h.rectangular.length_column? h.delete
  rw [Column.length, List.length_map] at hget hput hdelete
  exact ⟨h.rectangular.length_column? h.timeStep, h.rectangular.length_column? h.totalSucc,
    hget, hput, hdelete, h.rectangular.length_column? h.event⟩

theorem IsTyped.failureTotals_eq :
    failureTotals cells.get cells.put cells.delete =
      orOverflow (sumFailures? cells.get cells.put cells.delete) := by
  obtain ⟨-, -, hget, hput, hdelete, -⟩ := h.length_eq
  simp [failureTotals, hget, hput, hdelete]

variable {window : Nat} (hwindow : 1 ≤ window)
include hwindow

theorem IsTyped.series_of_no_timeStep (hnone : none ∈ cells.timeSteps) :
    frame.series window = fail (.nullValue ColumnName.timeStep) := by
  rw [Frame.series, if_neg (Nat.one_le_iff_ne_zero.1 hwindow), floats_eq_of_column? h.timeStep,
    present_of_none_mem hnone]
  rfl

theorem IsTyped.series_of_no_totalSucc (htimeSteps : none ∉ cells.timeSteps)
    (hnone : none ∈ cells.totalSucc) :
    frame.series window = fail (.nullValue ColumnName.totalSucc) := by
  obtain ⟨timeSteps, htimeStep⟩ := exists_eq_map_some htimeSteps
  have hfloats : frame.floats ColumnName.timeStep = .ok timeSteps :=
    floats_eq_ok_iff.2 (htimeStep ▸ h.timeStep)
  rw [Frame.series, if_neg (Nat.one_le_iff_ne_zero.1 hwindow), hfloats,
    floats_eq_of_column? h.totalSucc, present_of_none_mem hnone]
  rfl

variable (htimeSteps : none ∉ cells.timeSteps) (htotalSucc : none ∉ cells.totalSucc)
include htimeSteps htotalSucc

theorem IsTyped.series_of_overflow (hlarge : ∃ total ∈ cells.failures, 2 ^ 64 ≤ total) :
    frame.series window = .error .overflow := by
  obtain ⟨timeSteps, htimeStep⟩ := exists_eq_map_some htimeSteps
  obtain ⟨successes, hsuccesses⟩ := exists_eq_map_some htotalSucc
  have hfloats : frame.floats ColumnName.timeStep = .ok timeSteps :=
    floats_eq_ok_iff.2 (htimeStep ▸ h.timeStep)
  have hfloats' : frame.floats ColumnName.totalSucc = .ok successes :=
    floats_eq_ok_iff.2 (hsuccesses ▸ h.totalSucc)
  rw [Frame.series, if_neg (Nat.one_le_iff_ne_zero.1 hwindow), hfloats, hfloats',
    counters_eq_ok_iff.2 h.get, counters_eq_ok_iff.2 h.put, counters_eq_ok_iff.2 h.delete]
  show (failureTotals cells.get cells.put cells.delete >>= _) = _
  rw [h.failureTotals_eq, sumFailures?_eq_none_iff.2 hlarge]
  rfl

theorem IsTyped.exists_series (hsmall : ∀ total ∈ cells.failures, total < 2 ^ 64) :
    ∃ s, frame.series window = .ok s := by
  obtain ⟨timeSteps, htimeStep⟩ := exists_eq_map_some htimeSteps
  obtain ⟨successes, hsuccesses⟩ := exists_eq_map_some htotalSucc
  have hsum : sumFailures? cells.get cells.put cells.delete ≠ none := by
    intro hnone
    obtain ⟨total, htotal, hlarge⟩ := sumFailures?_eq_none_iff.1 hnone
    have hlt := hsmall total htotal
    omega
  obtain ⟨totals, htotals⟩ := Option.ne_none_iff_exists'.1 hsum
  refine ⟨_, series_eq_ok_iff.2 ⟨hwindow, ⟨timeSteps, successes, cells.get, cells.put, cells.delete,
    totals, cells.labels⟩, ⟨?_, ?_, h.get, h.put, h.delete, ?_, _, h.event, rfl⟩, rfl⟩⟩
  · rw [h.timeStep, htimeStep]
  · rw [h.totalSucc, hsuccesses]
  · rw [h.failureTotals_eq, htotals]
    rfl

end

/-- Whatever a file holds, a frame that is loaded from it has its required columns, of equal length
and with their types. So where the failures in each of its rows can be counted, a series can be
derived from it for every window but zero, unless a time step or a total of successes is missing. -/
theorem series_of_load {fs : FileSystem} {path : Path} {truncate : Option Nat} {frame : Frame}
    (hload : load fs path truncate = .ok frame) :
    (∃ cells, frame.IsTyped cells) ∧ frame.series 0 = fail .windowOfZero ∧
      ∀ cells, frame.IsTyped cells →
        (∀ n ∈ [cells.timeSteps.length, cells.totalSucc.length, cells.get.length, cells.put.length,
          cells.delete.length, cells.labels.length], n = frame.height) ∧
        ∀ window, 1 ≤ window → (∀ total ∈ cells.failures, total < 2 ^ 64) →
          ((frame.series window).FailsWith "Null value in column timeStep" ↔
            none ∈ cells.timeSteps) ∧
          ((frame.series window).FailsWith "Null value in column totalSucc" ↔
            none ∉ cells.timeSteps ∧ none ∈ cells.totalSucc) ∧
          ((∃ s, frame.series window = .ok s) ↔
            none ∉ cells.timeSteps ∧ none ∉ cells.totalSucc) ∧
          ∀ stop, frame.series window = .error stop →
            ∃ name ∈ [ColumnName.timeStep, ColumnName.totalSucc], stop = .ofCause (.nullValue name) := by
  refine ⟨exists_isTyped hload, rfl, fun cells h => ⟨?_, fun window hwindow hsmall => ?_⟩⟩
  · obtain ⟨htimeSteps, htotalSucc, hget, hput, hdelete, hlabels⟩ := h.length_eq
    simp [htimeSteps, htotalSucc, hget, hput, hdelete, hlabels]
  · by_cases htimeSteps : none ∈ cells.timeSteps
    · rw [h.series_of_no_timeStep hwindow htimeSteps]
      refine ⟨iff_of_true ⟨_, rfl, rfl⟩ htimeSteps, iff_of_false ?_ (fun hnone => hnone.1 htimeSteps),
        iff_of_false nofun (fun hnone => hnone.1 htimeSteps), ?_⟩
      · rw [fail_failsWith_iff]
        decide
      · rintro stop ⟨⟩
        exact ⟨_, by simp, rfl⟩
    by_cases htotalSucc : none ∈ cells.totalSucc
    · rw [h.series_of_no_totalSucc hwindow htimeSteps htotalSucc]
      refine ⟨iff_of_false ?_ htimeSteps, iff_of_true ⟨_, rfl, rfl⟩ ⟨htimeSteps, htotalSucc⟩,
        iff_of_false nofun (fun hnone => hnone.2 htotalSucc), ?_⟩
      · rw [fail_failsWith_iff]
        decide
      · rintro stop ⟨⟩
        exact ⟨_, by simp, rfl⟩
    · obtain ⟨s, hs⟩ := h.exists_series hwindow htimeSteps htotalSucc hsmall
      rw [hs]
      exact ⟨iff_of_false nofun htimeSteps, iff_of_false nofun (fun hnone => htotalSucc hnone.2),
        iff_of_true ⟨s, rfl⟩ ⟨htimeSteps, htotalSucc⟩, nofun⟩

/-- A table with a row that is too short, and with a cell of blanks instead of a time step. -/
def gapTable : String :=
  "event,timeStep,totalSucc,getFailCount,putFailCount,deleteFailCount\n" ++
    ",1,5,,7.9,x\nSTART_SERVER, ,6,1\n"

def gapCells : TypedCells where
  timeSteps := [some 1, none]
  totalSucc := [some 5, some 6]
  get := [0, 1]
  put := [7, 0]
  delete := [0, 0]
  labels := [none, some "START_SERVER"]

theorem load_gapTable :
    ∃ frame, load (.ofTable gapTable.toUTF8) ⟨"t.csv".toList⟩ none = .ok frame ∧
      frame.IsTyped gapCells := by
  obtain ⟨⟨columns⟩, hread, hcolumns⟩ := exists_ok_of_any (o := Table.read gapTable.toUTF8.toList)
    (p := fun frame => frame.columns = [
      ("event", .text [none, some "START_SERVER"]), ("timeStep", .text [some "1", some " "]),
      ("totalSucc", .integers [some 5, some 6]), ("getFailCount", .integers [none, some 1]),
      ("putFailCount", .floats [some 7.9, none]), ("deleteFailCount", .text [some "x", none])])
    (by decide +kernel)
  obtain rfl := hcolumns
  have htimeSteps : (Column.text [some "1", some " "]).toFloats = gapCells.timeSteps := by
    decide +kernel
  have hput : (Column.floats [some 7.9, none]).toCounters.map (fun n => some (n.getD 0)) =
      gapCells.put.map some := by
    decide +kernel
  have hframe := Table.rectangular_of_read hread
  refine ⟨(Frame.mk _).normalise, ?_, ?_, rfl, rfl, ?_, rfl, rfl, hframe.normalise⟩
  · rw [load_of_read (FileSystem.read_ofTable _), hread]
    rfl
  · exact congrArg (some ∘ Column.floats) htimeSteps
  · exact congrArg (some ∘ Column.counters) hput

theorem series_of_gapTable :
    ∃ frame, load (.ofTable gapTable.toUTF8) ⟨"t.csv".toList⟩ none = .ok frame ∧
      frame.IsTyped gapCells ∧ (frame.series 2).FailsWith "Null value in column timeStep" := by
  obtain ⟨frame, hload, hcells⟩ := load_gapTable
  obtain ⟨-, -, houtcome⟩ := series_of_load hload
  obtain ⟨hfails, -⟩ := (houtcome gapCells hcells).2 2 (by decide) (by decide)
  exact ⟨frame, hload, hcells, hfails.2 (by simp [gapCells])⟩

end Frame

end TelemetryCharts
