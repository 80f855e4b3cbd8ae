import TelemetryCharts.Chart.Configuration
import TelemetryCharts.Proofs.Chart.Meanings
import TelemetryCharts.Proofs.Traversal

/-!
# Filling in what a chart leaves open

A field of a chart is what stands under its key, or it has its default. The charts that are read from
a document are just those that are related to its tables in this way, one by one.
-/

namespace TelemetryCharts

open Toml

/-- Says that labels are those of a table. -/
structure Labels.FilledFrom (entries : Table) (labels : Labels) : Prop where
  title : Filled (Given IsText) ({} : Labels).title (entries.lookup "title") labels.title
  xAxis : Filled IsText ({} : Labels).xAxis (entries.lookup "x_axis") labels.xAxis
  yAxis : Filled IsText ({} : Labels).yAxis (entries.lookup "y_axis") labels.yAxis
  successful : Filled IsText ({} : Labels).successful (entries.lookup "successful") labels.successful
  unsuccessful :
    Filled IsText ({} : Labels).unsuccessful (entries.lookup "unsuccessful") labels.unsuccessful
  serverStart :
    Filled IsText ({} : Labels).serverStart (entries.lookup "server_start") labels.serverStart
  serverStop :
    Filled IsText ({} : Labels).serverStop (entries.lookup "server_stop") labels.serverStop
  clientStart :
    Filled IsText ({} : Labels).clientStart (entries.lookup "client_start") labels.clientStart

theorem labels?_table_eq_some_iff {entries : Table} {labels : Labels} :
    Value.labels? (.table entries) = some labels ↔ labels.FilledFrom entries := by
  simp only [Value.labels?, Value.fields?, Value.labelKeys, List.map_cons, List.map_nil,
    Option.bind_eq_bind, Option.bind_some, Option.bind_eq_some_iff, reads_text?.orDefault,
    reads_text?.optional]
  constructor
  · rintro ⟨title, htitle, xAxis, hx, yAxis, hy, successful, hsuccessful, unsuccessful,
      hunsuccessful, start, hstart, stop, hstop, client, hclient, heq⟩
    obtain rfl := Option.some.inj heq
    exact ⟨htitle, hx, hy, hsuccessful, hunsuccessful, hstart, hstop, hclient⟩
  · intro h
    exact ⟨_, h.title, _, h.xAxis, _, h.yAxis, _, h.successful, _, h.unsuccessful, _, h.serverStart,
      _, h.serverStop, _, h.clientStart, rfl⟩

/-- Says that a value is a table of labels. -/
def IsLabels (v : Value) (labels : Labels) : Prop :=
  ∃ entries, v = .table entries ∧ labels.FilledFrom entries

namespace Chart

/-- Says that a chart is that of a table. -/
structure FilledFrom (entries : Table) (chart : Chart) : Prop where
  input : ∃ v, entries.lookup "input" = some v ∧ IsPath v chart.input
  output : Filled (Given IsPath) (new chart.input).output (entries.lookup "output") chart.output
  window : Filled IsNumber (new chart.input).window (entries.lookup "window") chart.window
  truncate :
    Filled (Given IsNumber) (new chart.input).truncate (entries.lookup "truncate") chart.truncate
  style : Filled IsStyle (new chart.input).style (entries.lookup "style") chart.style
  labels : Filled IsLabels (new chart.input).labels (entries.lookup "labels") chart.labels
  width : Filled IsPixels (new chart.input).width (entries.lookup "width") chart.width
  height : Filled IsPixels (new chart.input).height (entries.lookup "height") chart.height
  seriesOut :
    Filled (Given IsPath) (new chart.input).seriesOut (entries.lookup "series_out") chart.seriesOut

/-- Says that a table has values of the right types and ranges under those keys of a chart that it
has. The input may be missing. -/
structure WellTyped (entries : Table) : Prop where
  input : Typed IsPath (entries.lookup "input")
  output : Typed IsPath (entries.lookup "output")
  window : Typed IsNumber (entries.lookup "window")
  truncate : Typed IsNumber (entries.lookup "truncate")
  style : Typed IsStyle (entries.lookup "style")
  labels : ∀ v, entries.lookup "labels" = some v →
    ∃ labels, v = .table labels ∧ ∀ key ∈ Value.labelKeys, Typed IsText (labels.lookup key)
  width : Typed IsPixels (entries.lookup "width")
  height : Typed IsPixels (entries.lookup "height")
  seriesOut : Typed IsPath (entries.lookup "series_out")

end Chart

/-- Tables of texts can be filled up to labels. -/
theorem Labels.exists_filledFrom {entries : Table}
    (h : ∀ key ∈ Value.labelKeys, Typed IsText (entries.lookup key)) :
    ∃ labels : Labels, labels.FilledFrom entries := by
  simp only [Value.labelKeys, List.forall_mem_cons] at h
  obtain ⟨htitle, hx, hy, hsuccessful, hunsuccessful, hstart, hstop, hclient, -⟩ := h
  obtain ⟨title, htitle⟩ := htitle.given.exists_filled
  obtain ⟨xAxis, hx⟩ := hx.exists_filled
  obtain ⟨yAxis, hy⟩ := hy.exists_filled
  obtain ⟨successful, hsuccessful⟩ := hsuccessful.exists_filled
  obtain ⟨unsuccessful, hunsuccessful⟩ := hunsuccessful.exists_filled
  obtain ⟨start, hstart⟩ := hstart.exists_filled
  obtain ⟨stop, hstop⟩ := hstop.exists_filled
  obtain ⟨client, hclient⟩ := hclient.exists_filled
  exact ⟨⟨title, xAxis, yAxis, successful, unsuccessful, start, stop, client⟩,
    htitle, hx, hy, hsuccessful, hunsuccessful, hstart, hstop, hclient⟩

theorem Labels.FilledFrom.typed {entries : Table} {labels : Labels} (h : labels.FilledFrom entries) :
    ∀ key ∈ Value.labelKeys, Typed IsText (entries.lookup key) := by
  simp only [Value.labelKeys, List.forall_mem_cons]
  exact ⟨h.title.typed.of_given, h.xAxis.typed, h.yAxis.typed, h.successful.typed,
    h.unsuccessful.typed, h.serverStart.typed, h.serverStop.typed, h.clientStart.typed, nofun⟩

namespace Chart

section
variable {entries : Table}

/-- A chart depends on a table only through its lookups. -/
theorem FilledFrom.of_lookup_eq {other : Table} {chart : Chart} (h : chart.FilledFrom entries)
    (heq : ∀ key, other.lookup key = entries.lookup key) : chart.FilledFrom other := by
  obtain ⟨hinput, houtput, hwindow, htruncate, hstyle, hlabels, hwidth, hheight, hseries⟩ := h
  simp only [← heq] at hinput houtput hwindow htruncate hstyle hlabels hwidth hheight hseries
  exact ⟨hinput, houtput, hwindow, htruncate, hstyle, hlabels, hwidth, hheight, hseries⟩

theorem FilledFrom.wellTyped {chart : Chart} (h : chart.FilledFrom entries) : WellTyped entries where
  input v hv := by
    obtain ⟨w, hw, hpath⟩ := h.input
    exact ⟨chart.input, Option.some.inj (hw.symm.trans hv) ▸ hpath⟩
  output := h.output.typed.of_given
  window := h.window.typed
  truncate := h.truncate.typed.of_given
  style := h.style.typed
  labels v hv := by
    obtain ⟨labels, texts, rfl, hfilled⟩ := h.labels.typed v hv
    exact ⟨texts, rfl, hfilled.typed⟩
  width := h.width.typed
  height := h.height.typed
  seriesOut := h.seriesOut.typed.of_given

theorem WellTyped.typed_labels (h : WellTyped entries) :
    Typed IsLabels (entries.lookup "labels") := by
  intro v hv
  obtain ⟨texts, rfl, htexts⟩ := h.labels v hv
  obtain ⟨labels, hlabels⟩ := Labels.exists_filledFrom htexts
  exact ⟨labels, texts, rfl, hlabels⟩

/-- Only tables are labels here, although arrays and dates are read as labels, too. -/
theorem labels_eq_some_iff (htable : ∀ v ∈ entries.lookup "labels", v.entries?.isSome)
    {default labels : Labels} :
    Value.orDefault default Value.labels? (entries.lookup "labels") = some labels ↔
      Filled IsLabels default (entries.lookup "labels") labels := by
  cases hlookup : entries.lookup "labels" with
  | none => exact Option.some_inj.trans eq_comm
  | some v =>
    obtain ⟨texts, htexts⟩ := Option.isSome_iff_exists.1 (htable v hlookup)
    obtain rfl := Value.entries?_eq_some_iff.1 htexts
    rw [Value.orDefault, labels?_table_eq_some_iff]
    exact ⟨fun hfilled => ⟨texts, rfl, hfilled⟩,
      fun ⟨_, heq, hfilled⟩ => Value.table.inj heq ▸ hfilled⟩

theorem chart?_eq_some_iff_of_labels (htable : ∀ v ∈ entries.lookup "labels", v.entries?.isSome)
    {chart : Chart} : Value.chart? (.table entries) = some chart ↔ chart.FilledFrom entries := by
  simp only [Value.chart?, Value.fields?, Value.chartKeys, List.map_cons, List.map_nil,
    Option.bind_eq_bind, Option.bind_some, Option.bind_eq_some_iff, reads_path?.optional,
    reads_natural?.orDefault, reads_natural?.optional, reads_chartStyle?.orDefault,
    labels_eq_some_iff htable, reads_pixels?.orDefault]
  constructor
  · rintro ⟨v, hv, input, hinput, output, houtput, window, hwindow, truncate, htruncate, style,
      hstyle, labels, hlabels, width, hwidth, height, hheight, seriesOut, hseries, heq⟩
    obtain rfl := Option.some.inj heq
    exact ⟨⟨v, hv, (reads_path? v _).1 hinput⟩, houtput, hwindow, htruncate, hstyle, hlabels, hwidth,
      hheight, hseries⟩
  · intro hfilled
    obtain ⟨v, hv, hinput⟩ := hfilled.input
    exact ⟨v, hv, _, (reads_path? v _).2 hinput, _, hfilled.output, _, hfilled.window, _,
      hfilled.truncate, _, hfilled.style, _, hfilled.labels, _, hfilled.width, _, hfilled.height, _,
      hfilled.seriesOut, rfl⟩

theorem WellTyped.labels_isSome (h : WellTyped entries) :
    ∀ v ∈ entries.lookup "labels", v.entries?.isSome := by
  intro v hv
  obtain ⟨texts, rfl, -⟩ := h.labels v hv
  rfl

theorem chart?_table_eq_some_iff (h : WellTyped entries) {chart : Chart} :
    Value.chart? (.table entries) = some chart ↔ chart.FilledFrom entries :=
  chart?_eq_some_iff_of_labels h.labels_isSome

instance (chart : Chart) : Decidable (chart.FilledFrom entries) :=
  decidable_of_iff ((∀ v ∈ entries.lookup "labels", v.entries?.isSome) ∧
      Value.chart? (.table entries) = some chart)
    ⟨fun h => (chart?_eq_some_iff_of_labels h.1).1 h.2,
      fun h => ⟨h.wellTyped.labels_isSome, (chart?_table_eq_some_iff h.wellTyped).2 h⟩⟩

/-- A table stands for one chart only. -/
theorem FilledFrom.unique {chart chart' : Chart} (h : chart.FilledFrom entries)
    (h' : chart'.FilledFrom entries) : chart = chart' :=
  Option.some.inj (((chart?_table_eq_some_iff h.wellTyped).2 h).symm.trans
    ((chart?_table_eq_some_iff h.wellTyped).2 h'))

/-- A table with an input can be filled up to a chart. -/
theorem exists_filledFrom (h : WellTyped entries) {v : Value} (hv : entries.lookup "input" = some v) :
    ∃ chart : Chart, chart.FilledFrom entries := by
  obtain ⟨input, hinput⟩ := h.input v hv
  obtain ⟨output, houtput⟩ := h.output.given.exists_filled
  obtain ⟨window, hwindow⟩ := h.window.exists_filled
  obtain ⟨truncate, htruncate⟩ := h.truncate.given.exists_filled
  obtain ⟨style, hstyle⟩ := h.style.exists_filled
  obtain ⟨labels, hlabels⟩ := h.typed_labels.exists_filled
  obtain ⟨width, hwidth⟩ := h.width.exists_filled
  obtain ⟨height, hheight⟩ := h.height.exists_filled
  obtain ⟨seriesOut, hseries⟩ := h.seriesOut.given.exists_filled
  exact ⟨⟨input, output, window, truncate, style, labels, width, height, seriesOut⟩,
    ⟨v, hv, hinput⟩, houtput, hwindow, htruncate, hstyle, hlabels, hwidth, hheight, hseries⟩

end

/-- Says that two values are tables with the same labels. -/
def SameLabels (v w : Value) : Prop :=
  ∃ a b, v = .table a ∧ w = .table b ∧ ∀ key ∈ Value.labelKeys, a.lookup key = b.lookup key

/-- Says that two tables have the same under all keys of charts, and under all keys of labels one level
down. -/
structure SameKnown (entries other : Table) : Prop where
  fields : ∀ key ∈ Value.chartKeys, key ≠ "labels" → entries.lookup key = other.lookup key
  labels : Option.Rel SameLabels (entries.lookup "labels") (other.lookup "labels")

theorem SameLabels.symm {v w : Value} (h : SameLabels v w) : SameLabels w v := by
  obtain ⟨a, b, rfl, rfl, hkeys⟩ := h
  exact ⟨b, a, rfl, rfl, fun key hkey => (hkeys key hkey).symm⟩

theorem SameLabels.isLabels {v w : Value} (h : SameLabels v w) {labels : Labels}
    (hv : IsLabels v labels) : IsLabels w labels := by
  obtain ⟨a, b, rfl, rfl, hkeys⟩ := h
  obtain ⟨entries, heq, hfilled⟩ := hv
  obtain rfl := Value.table.inj heq
  refine ⟨b, rfl, ?_⟩
  rw [← labels?_table_eq_some_iff, Value.labels?, Value.fields?] at hfilled ⊢
  rwa [← List.map_congr_left hkeys]

namespace SameKnown

variable {entries other : Table}

theorem symm (h : SameKnown entries other) : SameKnown other entries where
  fields key hkey hlabels := (h.fields key hkey hlabels).symm
  labels := by
    have hlabels := h.labels
    generalize entries.lookup "labels" = v, other.lookup "labels" = w at hlabels
    cases hlabels with
    | none => exact .none
    | some hsame => exact .some hsame.symm

theorem exists_labels (h : SameKnown entries other) {w : Value}
    (hw : other.lookup "labels" = some w) :
    ∃ v, entries.lookup "labels" = some v ∧ SameLabels v w := by
  have hlabels := h.labels
  generalize entries.lookup "labels" = v, other.lookup "labels" = w' at hlabels hw
  cases hlabels with
  | none => cases hw
  | some hsame => exact ⟨_, rfl, Option.some.inj hw ▸ hsame⟩

theorem filled_labels (h : SameKnown entries other) {default labels : Labels}
    (hfilled : Filled IsLabels default (entries.lookup "labels") labels) :
    Filled IsLabels default (other.lookup "labels") labels := by
  have hlabels := h.labels
  generalize entries.lookup "labels" = v, other.lookup "labels" = w at hlabels hfilled
  cases hlabels with
  | none => exact hfilled
  | some hsame => exact hsame.isLabels hfilled

theorem filledFrom (h : SameKnown entries other) {chart : Chart} (hfilled : chart.FilledFrom entries) :
    chart.FilledFrom other where
  input := h.fields "input" (by decide) (by decide) ▸ hfilled.input
  output := h.fields "output" (by decide) (by decide) ▸ hfilled.output
  window := h.fields "window" (by decide) (by decide) ▸ hfilled.window
  truncate := h.fields "truncate" (by decide) (by decide) ▸ hfilled.truncate
  style := h.fields "style" (by decide) (by decide) ▸ hfilled.style
  labels := h.filled_labels hfilled.labels
  width := h.fields "width" (by decide) (by decide) ▸ hfilled.width
  height := h.fields "height" (by decide) (by decide) ▸ hfilled.height
  seriesOut := h.fields "series_out" (by decide) (by decide) ▸ hfilled.seriesOut

theorem wellTyped (h : SameKnown entries other) (htyped : WellTyped entries) : WellTyped other where
  input := h.fields "input" (by decide) (by decide) ▸ htyped.input
  output := h.fields "output" (by decide) (by decide) ▸ htyped.output
  window := h.fields "window" (by decide) (by decide) ▸ htyped.window
  truncate := h.fields "truncate" (by decide) (by decide) ▸ htyped.truncate
  style := h.fields "style" (by decide) (by decide) ▸ htyped.style
  labels w hw := by
    obtain ⟨v, hv, a, b, rfl, rfl, hkeys⟩ := h.exists_labels hw
    obtain ⟨texts, heq, htexts⟩ := htyped.labels _ hv
    obtain rfl := Value.table.inj heq
    exact ⟨b, rfl, fun key hkey => hkeys key hkey ▸ htexts key hkey⟩
  width := h.fields "width" (by decide) (by decide) ▸ htyped.width
  height := h.fields "height" (by decide) (by decide) ▸ htyped.height
  seriesOut := h.fields "series_out" (by decide) (by decide) ▸ htyped.seriesOut

/-- Keys without a meaning change nothing about a chart. -/
theorem chart?_eq (h : SameKnown entries other) (htyped : WellTyped entries) :
    Value.chart? (.table entries) = Value.chart? (.table other) := by
  ext chart
  rw [chart?_table_eq_some_iff htyped, chart?_table_eq_some_iff (h.wellTyped htyped)]
  exact ⟨h.filledFrom, h.symm.filledFrom⟩

end SameKnown

/-- The tables of the charts in a document, if charts are an array of tables. A document that does not
mention charts has none. -/
def tables? (t : Table) : Option (List Table) :=
  match t.lookup "chart" with
  | none => some []
  | some v => v.items?.bind fun items => items.mapM Value.entries?

theorem ofTable?_of_tables? {t : Table} {tables : List Table} (h : tables? t = some tables) :
    ofTable? t = tables.mapM fun entries => Value.chart? (.table entries) := by
  rw [tables?] at h
  rw [ofTable?]
  split at h
  · next hnone =>
    obtain rfl := Option.some.inj h
    rw [hnone]
    rfl
  · next v hv =>
    obtain ⟨items, hitems, htables⟩ := Option.bind_eq_some_iff.1 h
    obtain rfl := Value.items?_eq_some_iff.1 hitems
    have heq : items = tables.map .table := by
      rw [mapM_eq_some_iff_forall₂] at htables
      rw [← List.forall₂_eq_eq_eq, List.forall₂_map_right_iff]
      exact htables.imp fun _ _ => Value.entries?_eq_some_iff.1
    rw [hv, heq, Value.orDefault, Value.charts?, List.mapM_map]
    rfl

/-- Tables with the same under all known keys are read alike, one by one. -/
theorem mapM_chart?_eq {tables others : List Table}
    (htyped : ∀ entries ∈ tables, WellTyped entries) (hsame : List.Forall₂ SameKnown tables others) :
    tables.mapM (fun entries => Value.chart? (.table entries)) =
      others.mapM fun entries => Value.chart? (.table entries) := by
  induction hsame with
  | nil => rfl
  | cons hhead _ ih =>
    rw [List.forall_mem_cons] at htyped
    rw [List.mapM_cons, List.mapM_cons, hhead.chart?_eq htyped.1, ih htyped.2]

section
variable {text : List Char} {t : Table} {tables : List Table} (hparse : Toml.parse text = some t)
  (hlists : tables? t = some tables)
include hparse hlists

theorem parse_eq_ok_iff {charts : List Chart} : Configuration.parse text = .ok charts ↔
    tables.mapM (fun entries => Value.chart? (.table entries)) = some charts := by
  rw [Configuration.parse, hparse, Option.bind_some, ofTable?_of_tables? hlists]
  cases tables.mapM fun entries => Value.chart? (.table entries) with
  | none => exact ⟨nofun, nofun⟩
  | some listed =>
    exact ⟨fun h => congrArg some (Except.ok.inj h),
      fun h => congrArg Except.ok (Option.some.inj h)⟩

/-- The charts of a document are those of its tables, one by one. -/
theorem parse_eq_ok_iff_forall₂ (htyped : ∀ entries ∈ tables, WellTyped entries) {charts : List Chart} :
    Configuration.parse text = .ok charts ↔ List.Forall₂ FilledFrom tables charts := by
  rw [parse_eq_ok_iff hparse hlists, mapM_eq_some_iff_forall₂]
  constructor
  · intro h
    exact ((List.forall₂_and_left _ _).2 ⟨htyped, h⟩).imp fun _ _ h =>
      (chart?_table_eq_some_iff h.1).1 h.2
  · intro h
    exact ((List.forall₂_and_left _ _).2 ⟨htyped, h⟩).imp fun _ _ h =>
      (chart?_table_eq_some_iff h.1).2 h.2

theorem exists_parse_iff (htyped : ∀ entries ∈ tables, WellTyped entries) :
    (∃ charts, Configuration.parse text = .ok charts) ↔
      ∀ entries ∈ tables, (entries.lookup "input").isSome := by
  simp only [parse_eq_ok_iff hparse hlists]
  constructor
  · rintro ⟨charts, hcharts⟩ entries hentries
    obtain ⟨chart, hchart⟩ := Option.ne_none_iff_exists'.1 fun hnone =>
      Option.some_ne_none charts (hcharts.symm.trans (mapM_eq_none_of_mem hentries hnone))
    obtain ⟨v, hv, -⟩ := ((chart?_table_eq_some_iff (htyped entries hentries)).1 hchart).input
    rw [hv]
    rfl
  · intro hinput
    refine Option.isSome_iff_exists.1 (mapM_isSome fun entries hentries => ?_)
    obtain ⟨v, hv⟩ := Option.isSome_iff_exists.1 (hinput entries hentries)
    obtain ⟨chart, hchart⟩ := exists_filledFrom (htyped entries hentries) hv
    rw [(chart?_table_eq_some_iff (htyped entries hentries)).2 hchart]
    rfl

end

/-- If all known keys of the charts in a document have values of the right types and ranges, then the
document is read if and only if each of its charts has an input. It is then read chart by chart, and
each field that a table does not have gets its default, whatever the other fields are. Keys without
a meaning change nothing, and neither does anything else in the document change a chart. -/
theorem parse_fills {text : List Char} {t : Table} {tables : List Table}
    (hparse : Toml.parse text = some t) (hlists : tables? t = some tables)
    (htyped : ∀ entries ∈ tables, WellTyped entries) :
    ((∃ charts, Configuration.parse text = .ok charts) ↔
        ∀ entries ∈ tables, (entries.lookup "input").isSome) ∧
      (∀ charts, Configuration.parse text = .ok charts → List.Forall₂ FilledFrom tables charts) ∧
      ∀ (text' : List Char) (t' : Table) (tables' : List Table),
        Toml.parse text' = some t' → tables? t' = some tables' →
        (List.Forall₂ SameKnown tables tables' →
          Configuration.parse text' = Configuration.parse text) ∧
        ∀ (charts charts' : List Chart), Configuration.parse text = .ok charts →
          Configuration.parse text' = .ok charts' →
            ∀ (i j : Nat) (entries entries' : Table),
              tables[i]? = some entries → tables'[j]? = some entries' →
              SameKnown entries entries' → charts[i]? = charts'[j]? := by
  refine ⟨exists_parse_iff hparse hlists htyped, fun charts =>
    (parse_eq_ok_iff_forall₂ hparse hlists htyped).1, fun text' t' tables' hparse' hlists' => ⟨?_, ?_⟩⟩
  · intro hsame
    rw [Configuration.parse, Configuration.parse, hparse, hparse', Option.bind_some, Option.bind_some,
      ofTable?_of_tables? hlists, ofTable?_of_tables? hlists', mapM_chart?_eq htyped hsame]
  · intro charts charts' hcharts hcharts' i j entries entries' hi hj hsame
    rw [parse_eq_ok_iff hparse hlists] at hcharts
    rw [parse_eq_ok_iff hparse' hlists'] at hcharts'
    rw [getElem?_of_mapM_eq_some hcharts, getElem?_of_mapM_eq_some hcharts', hi, hj]
    exact hsame.chart?_eq (htyped entries (List.mem_of_getElem? hi))

/-- A document of two charts with different gaps, and with keys without a meaning on all levels. -/
def gappyCharts : String :=
  "year=1\n[[chart]]\ninput='a'\nwindow=0\nstyle='boxed'\n[chart.labels]\ny_axis='Ops'\nz=[]\n" ++
    "[[chart]]\nhue=2\nheight=9\ninput='b'\n"

/-- The two charts with their gaps filled. -/
def filledCharts : List Chart :=
  [{ new (Path.ofText "a") with window := 0, style := .boxed, labels := { yAxis := "Ops" } },
    { new (Path.ofText "b") with height := 9 }]

theorem parse_fills_gappyCharts : ∃ t tables,
    (Toml.parse gappyCharts.toList = some t ∧ tables? t = some tables ∧
      ∀ entries ∈ tables, WellTyped entries) ∧
    Configuration.parse gappyCharts.toList = .ok filledCharts ∧
    List.Forall₂ FilledFrom tables filledCharts := by
  have hdocument : (Toml.parse gappyCharts.toList).any (fun t => (tables? t).any fun tables =>
      List.Forall₂ FilledFrom tables filledCharts) = true := by
    decide +kernel
  obtain ⟨t, hparse, htables⟩ := (Option.any_eq_true _ _).1 hdocument
  obtain ⟨tables, hlists, hfilled⟩ := (Option.any_eq_true _ _).1 htables
  rw [decide_eq_true_eq] at hfilled
  have htyped := ((List.forall₂_and_left _ _).1 (hfilled.imp fun _ _ h => ⟨h.wellTyped, h⟩)).1
  have hfills := parse_fills hparse hlists htyped
  have hcharts := (parse_eq_ok_iff_forall₂ hparse hlists htyped).2 hfilled
  exact ⟨t, tables, ⟨hparse, hlists, htyped⟩, hcharts, hfills.2.1 filledCharts hcharts⟩

end Chart

end TelemetryCharts
