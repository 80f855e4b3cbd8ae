import TelemetryCharts.Proofs.Files.Readback
import TelemetryCharts.Proofs.Json.Decoding
import TelemetryCharts.Proofs.Text.Utf8

/-!
# Exports of series

The export of a series can be read back if and only if all doubles in the series are finite, and
then it is the series that was exported. The arithmetic by which a decimal is read as a double stays
out of this: a series is only considered if its finite doubles are read back from their decimals.
-/

namespace TelemetryCharts

open Json (Value)

/-- The doubles among the markers. -/
def Markers.doubles (markers : Markers Float) : List Float :=
  markers.entries.flatMap fun (_, found) => found.map Marker.timeStep

namespace Series

/-- All doubles in a series. -/
def doubles (s : Series Float) : List Float :=
  s.timeSteps ++ s.average.timeSteps ++ s.average.values ++ s.markers.doubles

/-- Says that the window and the rows of a series are machine words. -/
structure InWords (s : Series Float) : Prop where
  window : s.window < wordLimit
  rows : ∀ e ∈ s.markers.entries, ∀ m ∈ e.2, m.row < wordLimit

/-- The series that a JSON text stands for. -/
def ofText? (cs : List Char) : Option (Series Float) :=
  (Value.parse cs).bind ofJson?

end Series

namespace Json

/-- A list of doubles that are read back if they are finite. -/
theorem list?_ofFloats {xs : List Float}
    (hreads : ∀ x ∈ xs, (ofFloat x).double? = if x.isFinite then some x else none) :
    (ofFloats xs).list? Value.double? = if xs.all Float.isFinite then some xs else none := by
  rw [ofFloats, list?_map, mapM_eq_ite (g := id) hreads, List.map_id]

theorem printable_ofFloats (xs : List Float) : (ofFloats xs).Printable :=
  printable_map printable_ofFloat xs

end Json

theorem Event.ofRaw?_label (kind : Event) : Event.ofRaw? kind.label.toList = some kind := by
  cases kind <;> rfl

section Markers

theorem Marker.ofJson?_of_fields {v row timeStep : Value}
    (h : v.fields? fieldNames = some [row, timeStep]) :
    ofJson? v = row.word?.bind fun row => timeStep.double?.map fun timeStep => ⟨row, timeStep⟩ := by
  simp only [ofJson?, h, Option.map_eq_bind]
  rfl

/-- The fields of the value for a marker. -/
def Marker.jsonFields (m : Marker Float) : List Value :=
  [Json.ofNat m.row, Json.ofFloat m.timeStep]

theorem Marker.toJson_eq (m : Marker Float) :
    m.toJson = .object ((fieldNames.map String.toList).zip m.jsonFields) :=
  rfl

theorem Marker.printable_toJson (m : Marker Float) : m.toJson.Printable := by
  rw [toJson_eq]
  refine Json.printable_zip (by decide) ?_
  simp [jsonFields, Json.printable_ofNat, Json.printable_ofFloat]

theorem Marker.ofJson?_toJson {m : Marker Float} (hrow : m.row < wordLimit)
    (hreads : (Json.ofFloat m.timeStep).double? =
      if m.timeStep.isFinite then some m.timeStep else none) :
    ofJson? m.toJson = if m.timeStep.isFinite then some m else none := by
  have hfields : m.toJson.fields? fieldNames = some m.jsonFields := by
    rw [toJson_eq]
    exact Json.fields?_zip (by decide) (by decide) rfl
  rw [ofJson?_of_fields hfields, Json.word?_ofNat hrow, Option.bind_some, hreads]
  split <;> rfl

/-- Says that all times of an entry are finite. -/
def Markers.isFiniteEntry (e : Event × List (Marker Float)) : Bool :=
  e.2.all fun m => m.timeStep.isFinite

theorem Markers.ofMembers?_cons {kind : Event} {found : List (Marker Float)} {v : Value}
    (hfound : v.list? Marker.ofJson? = if isFiniteEntry (kind, found) then some found else none)
    (start : Markers Float) (rest : List (List Char × Value)) :
    ofMembers? start ((kind.label.toList, v) :: rest) =
      if isFiniteEntry (kind, found) then ofMembers? (start.insert kind found) rest else none := by
  simp only [ofMembers?, Event.ofRaw?_label, hfound, Option.bind_eq_bind, Option.bind_some]
  split <;> rfl

/-- Markers are read kind by kind. -/
theorem Markers.ofMembers?_map {es : List (Event × List (Marker Float))}
    (hmarkers : ∀ e ∈ es, ∀ m ∈ e.2,
      Marker.ofJson? m.toJson = if m.timeStep.isFinite then some m else none)
    (start : Markers Float) :
    ofMembers? start (es.map fun e => (e.1.label.toList, .array (e.2.map Marker.toJson))) =
      if es.all isFiniteEntry then
        some (es.foldl (fun markers e => markers.insert e.1 e.2) start)
      else none := by
  induction es generalizing start with
  | nil => rfl
  | cons e es ih =>
    have hfound : (Value.array (e.2.map Marker.toJson)).list? Marker.ofJson? =
        if isFiniteEntry e then some e.2 else none := by
      rw [Json.list?_map, mapM_eq_ite (g := id) (hmarkers e (by simp)), List.map_id]
      rfl
    rw [List.map_cons, ofMembers?_cons hfound,
      ih (fun e he => hmarkers e (List.mem_cons_of_mem _ he)), List.all_cons, List.foldl_cons]
    cases isFiniteEntry e <;> rfl

theorem Markers.entry?_insertAll (markers start : Markers Float) (kinds : List Event) (kind : Event) :
    Markers.entry? ((kinds.filterMap fun k => (markers.entry? k).map fun found => (k, found)).foldl
        (fun markers e => markers.insert e.1 e.2) start) kind =
      if kind ∈ kinds ∧ (markers.entry? kind).isSome then markers.entry? kind
      else start.entry? kind := by
  induction kinds generalizing start with
  | nil => simp
  | cons k kinds ih =>
    cases hentry : markers.entry? k with
    | none =>
      rw [List.filterMap_cons_none (by rw [hentry]; rfl), ih]
      by_cases hk : kind = k
      · simp [hk, hentry]
      · simp [hk]
    | some found =>
      rw [List.filterMap_cons_some (by rw [hentry]; rfl), List.foldl_cons, ih]
      by_cases hk : kind = k
      · simp [hk, hentry, insert]
      · simp [hk, insert]

/-- The markers of each kind are all that there is to markers. -/
theorem Markers.insertAll_entries (markers : Markers Float) :
    markers.entries.foldl (fun markers e => markers.insert e.1 e.2)
      ⟨fun _ => none⟩ = markers := by
  obtain ⟨find?⟩ := markers
  refine congrArg Markers.mk (funext fun kind => ?_)
  have hentry := entry?_insertAll ⟨find?⟩ ⟨fun _ => none⟩ Event.all kind
  have hall : kind ∈ Event.all := by cases kind <;> decide
  refine hentry.trans ?_
  cases h : find? kind <;> simp [hall, h]

theorem Markers.printable_toJson (markers : Markers Float) : markers.toJson.Printable := by
  refine .object (fun m hm => ?_) fun m hm => ?_ <;>
    obtain ⟨⟨kind, found⟩, -, rfl⟩ := List.mem_map.1 hm
  · refine Json.isContent_of_plain (show kind.label.toList.all Json.isPlain = true from ?_)
    cases kind <;> decide
  · exact Json.printable_map Marker.printable_toJson found

/-- Markers are read back if and only if all of their times are finite. -/
theorem Markers.ofJson?_toJson {markers : Markers Float}
    (hrows : ∀ e ∈ markers.entries, ∀ m ∈ e.2, m.row < wordLimit)
    (hreads : ∀ x ∈ markers.doubles,
      (Json.ofFloat x).double? = if x.isFinite then some x else none) :
    ofJson? markers.toJson = if markers.doubles.all Float.isFinite then some markers else none := by
  have hmarkers : ∀ e ∈ markers.entries, ∀ m ∈ e.2,
      Marker.ofJson? m.toJson = if m.timeStep.isFinite then some m else none :=
    fun e he m hm => Marker.ofJson?_toJson (hrows e he m hm)
      (hreads _ (List.mem_flatMap.2 ⟨e, he, List.mem_map_of_mem hm⟩))
  have hfinite : markers.entries.all isFiniteEntry = markers.doubles.all Float.isFinite := by
    simp only [doubles, List.all_flatMap, List.all_map]
    rfl
  have hread := ofMembers?_map hmarkers ⟨fun _ => none⟩
  rw [insertAll_entries, hfinite] at hread
  exact hread

end Markers

theorem Smoothed.ofJson?_of_fields {v timeSteps values : Value}
    (h : v.fields? fieldNames = some [timeSteps, values]) :
    ofJson? v = (timeSteps.list? Value.double?).bind fun timeSteps =>
      (values.list? Value.double?).map fun values => ⟨timeSteps, values⟩ := by
  simp only [ofJson?, h, Option.map_eq_bind]
  rfl

/-- The fields of the value for a moving average. -/
def Smoothed.jsonFields (s : Smoothed Float) : List Value :=
  [Json.ofFloats s.timeSteps, Json.ofFloats s.values]

theorem Smoothed.toJson_eq (s : Smoothed Float) :
    s.toJson = .object ((fieldNames.map String.toList).zip s.jsonFields) :=
  rfl

theorem Smoothed.printable_toJson (s : Smoothed Float) : s.toJson.Printable := by
  rw [toJson_eq]
  refine Json.printable_zip (by decide) ?_
  simp [jsonFields, Json.printable_ofFloats]

theorem Smoothed.ofJson?_toJson {s : Smoothed Float}
    (hreads : ∀ x ∈ s.timeSteps ++ s.values,
      (Json.ofFloat x).double? = if x.isFinite then some x else none) :
    ofJson? s.toJson = if (s.timeSteps ++ s.values).all Float.isFinite then some s else none := by
  have hfields : s.toJson.fields? fieldNames = some s.jsonFields := by
    rw [toJson_eq]
    exact Json.fields?_zip (by decide) (by decide) rfl
  rw [List.forall_mem_append] at hreads
  rw [ofJson?_of_fields hfields,
    Json.list?_ofFloats hreads.1, Json.list?_ofFloats hreads.2, List.all_append]
  cases s.timeSteps.all Float.isFinite <;> cases s.values.all Float.isFinite <;> rfl

namespace Series

theorem ofJson?_of_fields {v window timeSteps average failureTotal markers : Value}
    (h : v.fields? fieldNames = some [window, timeSteps, average, failureTotal, markers]) :
    ofJson? v = window.word?.bind fun window => (timeSteps.list? Value.double?).bind fun timeSteps =>
      (Smoothed.ofJson? average).bind fun average =>
        (failureTotal.list? Value.counter?).bind fun failureTotal =>
          (Markers.ofJson? markers).map fun markers =>
            ⟨window, timeSteps, average, failureTotal, markers⟩ := by
  simp only [ofJson?, h, Option.map_eq_bind]
  rfl

/-- The fields of the value for a series. -/
def jsonFields (s : Series Float) : List Value :=
  [Json.ofNat s.window, Json.ofFloats s.timeSteps, s.average.toJson,
    .array (s.failureTotal.map fun n => Json.ofNat n.toNat), s.markers.toJson]

theorem toJson_eq (s : Series Float) :
    s.toJson = .object ((fieldNames.map String.toList).zip s.jsonFields) :=
  rfl

/-- A series is read back if and only if all of its doubles are finite. -/
theorem ofJson?_toJson {s : Series Float} (hwords : s.InWords)
    (hreads : ∀ x ∈ s.doubles, (Json.ofFloat x).double? = if x.isFinite then some x else none) :
    ofJson? s.toJson = if s.doubles.all Float.isFinite then some s else none := by
  have hfields : s.toJson.fields? fieldNames = some s.jsonFields := by
    rw [toJson_eq]
    exact Json.fields?_zip (by decide) (by decide) rfl
  have hcounters : (Value.array (s.failureTotal.map fun n => Json.ofNat n.toNat)).list?
      Value.counter? = some s.failureTotal := by
    rw [Json.list?_map, mapM_eq_some_map (g := id) fun n _ => Json.counter?_ofNat n, List.map_id]
  simp only [doubles, List.append_assoc, List.forall_mem_append] at hreads
  obtain ⟨htimeSteps, haverageTimeSteps, haverageValues, hmarkers⟩ := hreads
  have haverage := Smoothed.ofJson?_toJson
    (List.forall_mem_append.2 ⟨haverageTimeSteps, haverageValues⟩)
  rw [ofJson?_of_fields hfields, Json.word?_ofNat hwords.window, Json.list?_ofFloats htimeSteps,
    haverage, hcounters, Markers.ofJson?_toJson hwords.rows hmarkers]
  simp only [doubles, List.all_append]
  cases s.timeSteps.all Float.isFinite <;> cases s.average.timeSteps.all Float.isFinite <;>
    cases s.average.values.all Float.isFinite <;> cases s.markers.doubles.all Float.isFinite <;> rfl

theorem printable_toJson (s : Series Float) : s.toJson.Printable := by
  rw [toJson_eq]
  refine Json.printable_zip (by decide) ?_
  simp [jsonFields, Json.printable_ofNat, Json.printable_ofFloats, s.average.printable_toJson,
    s.markers.printable_toJson, Json.printable_map fun n : UInt64 => Json.printable_ofNat n.toNat]

/-- The export of a series can be read if and only if all of its doubles are finite. -/
theorem ofText?_exportText {s : Series Float} (hwords : s.InWords)
    (hreads : ∀ x ∈ s.doubles, (Json.ofFloat x).double? = if x.isFinite then some x else none) :
    ofText? s.exportText.toList = if s.doubles.all Float.isFinite then some s else none := by
  rw [ofText?, exportText, Value.print, String.toList_ofList,
    Value.parse_render Json.Style.blank_pretty s.printable_toJson, Option.bind_some,
    ofJson?_toJson hwords hreads]

/-- Says that content is the JSON of a series, with one item or member on a line. This is a text that is
parsed as the value for the series, and it is read as the series itself if each double in it is read
back from its decimal. -/
structure IsExport (s : Series Float) (content : ByteArray) : Prop where
  content_eq : content = (s.toJson.print .pretty).toUTF8
  parsed : Value.parse (s.toJson.print .pretty).toList = some s.toJson
  read : s.InWords → (∀ x ∈ s.doubles, (Json.ofFloat x).double? = some x) →
    ofText? (s.toJson.print .pretty).toList = some s

theorem isExport_exportText (s : Series Float) : s.IsExport s.exportText.toUTF8 := by
  refine ⟨rfl, ?_, fun hwords hreads => ?_⟩
  · rw [Value.print, String.toList_ofList,
      Value.parse_render Json.Style.blank_pretty s.printable_toJson]
  · have hfinite : ∀ x ∈ s.doubles, x.isFinite = true := by
      intro x hx
      by_contra hinfinite
      have hnone := Json.double?_ofFloat_of_not_isFinite (Bool.not_eq_true _ ▸ hinfinite)
      rw [hreads x hx] at hnone
      cases hnone
    have htext := ofText?_exportText hwords fun x hx => by rw [if_pos (hfinite x hx), hreads x hx]
    rwa [if_pos (List.all_eq_true.2 hfinite)] at htext

/-- The file to which a series was written holds its export. -/
theorem read_of_write_run {s : Series Float} {path : Path} {fs after : FileSystem}
    (h : (s.write path).run fs = (.ok (), after)) :
    after.read path = .ok s.exportText.toUTF8 := by
  rw [write, Action.run_bind] at h
  split at h
  · exact FileSystem.read_of_write_run h
  · cases h

/-- The file to which a series is written holds a text that can be read back if and only if all
doubles in the series are finite, and then it is read back as that very series. -/
theorem read_export (s : Series Float) (hwords : s.InWords)
    (hreads : ∀ x ∈ s.doubles, x.isFinite = true → (Json.ofFloat x).double? = some x) :
    (∀ (fs : FileSystem) (path : Path) (after : FileSystem),
        (s.write path).run fs = (.ok (), after) →
      ∃ bytes, after.read path = .ok bytes ∧ Text.ofBytes? bytes = some s.exportText.toList) ∧
    ((∃ t, ofText? s.exportText.toList = some t) ↔ ∀ x ∈ s.doubles, x.isFinite = true) ∧
    ∀ t, ofText? s.exportText.toList = some t → t = s := by
  have hcells : ∀ x ∈ s.doubles,
      (Json.ofFloat x).double? = if x.isFinite then some x else none := by
    intro x hx
    split
    · next hfinite => exact hreads x hx hfinite
    · next hinfinite => exact Json.double?_ofFloat_of_not_isFinite (by simpa using hinfinite)
  have hread := ofText?_exportText hwords hcells
  refine ⟨fun fs path after h => ⟨_, read_of_write_run h, Text.ofBytes?_toUTF8 _⟩, ?_, fun t ht => ?_⟩
  · rw [hread, ← List.all_eq_true]
    constructor
    · rintro ⟨t, ht⟩
      split at ht
      · assumption
      · cases ht
    · intro hfinite
      exact ⟨s, if_pos hfinite⟩
  · rw [hread] at ht
    split at ht
    · exact (Option.some.inj ht).symm
    · cases ht

/-- A series with the extremes of what is finite, in which one tracked kind has no entry and the end
of the run has one. -/
def extremes : Series Float where
  window := 2 ^ 64 - 1
  timeSteps := [-0.0, 5e-324, 0.1]
  average := ⟨[-1.7976931348623157e308], []⟩
  failureTotal := [0, 18446744073709551615]
  markers := ⟨fun
    | .startServer => some []
    | .stopServer => none
    | .startClient => some [⟨2 ^ 64 - 1, 1e21⟩, ⟨0, 2.5⟩]
    | .stopProgram => some [⟨7, -0.0⟩]⟩

theorem read_export_extremes :
    (extremes.InWords ∧
      ∀ x ∈ extremes.doubles, x.isFinite = true → (Json.ofFloat x).double? = some x) ∧
    (∃ t, ofText? extremes.exportText.toList = some t) ∧
    ∀ t, ofText? extremes.exportText.toList = some t → t = extremes := by
  have hwords : extremes.InWords := ⟨by decide, by decide⟩
  have hreads : ∀ x ∈ extremes.doubles, x.isFinite = true → (Json.ofFloat x).double? = some x := by
    decide +kernel
  have hexport := read_export extremes hwords hreads
  exact ⟨⟨hwords, hreads⟩, hexport.2.1.2 (by decide +kernel), hexport.2.2⟩

end Series

end TelemetryCharts
