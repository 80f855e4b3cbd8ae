import TelemetryCharts.Proofs.Chart.Resolution
import TelemetryCharts.Proofs.Series.Outcomes
import TelemetryCharts.Proofs.Session.Accounts
import TelemetryCharts.Proofs.Session.Runs

/-!
# Drawings of sessions

Charts whose outputs lead to different files leave one picture each when all of them succeed. The
charts of a configuration that gives no outputs are like this exactly if their tables have different
stems.
-/

namespace TelemetryCharts

open FileSystem

theorem Outcome.isOverflow_of_isOk {α : Type} {o : Outcome α} (h : Outcome.isOk o = true) :
    Outcome.isOverflow o = false := by
  cases o with
  | ok x => rfl
  | error stop => cases h

/-- A chart with the series that it has been drawn from and the place of its picture. -/
structure Drawing where
  chart : Chart
  series : Series Float
  place : Location

section
variable [Painter]

/-- Says that the output of a chart leads to the place of the drawing, and that its picture is there. -/
def Drawing.IsIn (d : Drawing) (fs : FileSystem) : Prop :=
  ∃ content, d.series.picture? d.chart d.chart.outputPath = some content ∧
    fs.find d.chart.outputPath = .ok (.existing d.place (.file content) false)

/-- Says that there is one drawing for each of some charts, of the series that came of the chart. The
drawings are at different places, and no file elsewhere has changed. -/
structure Drawn (charts : List Chart) (results : List (Outcome (Series Float)))
    (before after : FileSystem) (drawings : List Drawing) : Prop where
  charts_eq : drawings.map Drawing.chart = charts
  results_eq : drawings.map (fun d => .ok d.series) = results
  nodup : (drawings.map Drawing.place).Nodup
  isIn : ∀ d ∈ drawings, d.IsIn after
  changes : ChangesOnly (drawings.map Drawing.place)
    (charts.flatMap (·.trail before.workingDirectory)) before after

/-- Says that there is one drawing for each of some charts in some files if all of the charts succeed
when they are made one after the other. -/
def LeavesDrawings (charts : List Chart) (before files : FileSystem) : Prop :=
  (∀ result ∈ (executeAll before charts).1, Outcome.isOk result = true) →
    ∃ drawings, Drawn charts (executeAll before charts).1 before files drawings

variable {fs after : FileSystem} {chart : Chart} {charts : List Chart} {s : Series Float}

/-- A chart without an export that succeeds deposits its picture. -/
theorem Chart.exists_deposits_of_execute (hnone : chart.seriesOut = none)
    (hrun : (chart.execute).run fs = (.ok s, after)) :
    ∃ content location, s.picture? chart chart.outputPath = some content ∧
      Deposits chart.outputPath content location fs after := by
  cases execution_of_execute hrun with
  | drawn hderive hexported hpicture hdrawn =>
    cases hexported with
    | nothing hpath => exact ⟨_, _, hpicture, hdrawn⟩
    | file hpath hdeposits =>
      rw [hnone] at hpath
      cases hpath

theorem result_mem_executeAll (fs : FileSystem) (chart : Chart) (charts : List Chart) :
    ((chart.execute).run fs).1 ∈ (executeAll fs (chart :: charts)).1 := by
  rw [executeAll]
  cases (chart.execute).run fs with
  | mk result after =>
    dsimp only
    split
    · exact List.mem_singleton_self _
    · exact List.mem_cons_self

/-- A chart that is drawn before others whose outputs lead elsewhere is still there when the others
have been drawn. -/
theorem Drawn.cons {middle : FileSystem} {location : Location} {results : List (Outcome (Series Float))}
    {drawings : List Drawing} (hdrawn : Drawn charts results middle after drawings)
    {content : ByteArray} (hpicture : s.picture? chart chart.outputPath = some content)
    (hdeposits : Deposits chart.outputPath content location fs middle)
    (hapart : ∀ other ∈ charts, ¬ SameFile after chart.outputPath other.outputPath) :
    Drawn (chart :: charts) (.ok s :: results) fs after (⟨chart, s, location⟩ :: drawings) := by
  have hplace : location ∉ drawings.map Drawing.place := by
    intro hmem
    obtain ⟨d, hd, rfl⟩ := List.mem_map.1 hmem
    have hother : d.chart ∈ charts := hdrawn.charts_eq ▸ List.mem_map_of_mem hd
    have hthere : placeOf (after.find d.chart.outputPath) = .ok d.place := by
      obtain ⟨content, -, hfind⟩ := hdrawn.isIn d hd
      rw [hfind]
      rfl
    have hlater := hdeposits.placeOf_later hdrawn.changes (node?_of_placeOf hthere)
    exact hapart d.chart hother ⟨d.place, hlater, hthere⟩
  have hnode := hdeposits.node_later hdrawn.changes hplace
  have hfind := hdeposits.find_later hdrawn.changes (by rw [hnode]; exact nofun)
  rw [landing, hnode] at hfind
  refine ⟨by rw [List.map_cons, hdrawn.charts_eq], by rw [List.map_cons, hdrawn.results_eq], ?_, ?_, ?_⟩
  · rw [List.map_cons, List.nodup_cons]
    exact ⟨hplace, hdrawn.nodup⟩
  · exact List.forall_mem_cons.2 ⟨⟨content, hpicture, hfind⟩, hdrawn.isIn⟩
  · have htrail : chart.outputPath.trail fs.workingDirectory ⊆ chart.trail fs.workingDirectory :=
      chart.trail_subset _ chart.outputPath_mem_writtenPaths
    have hlater := hdrawn.changes
    rw [hdeposits.changes.workingDirectory] at hlater
    rw [List.map_cons, List.flatMap_cons]
    refine (hdeposits.changes.mono ?_ ?_).trans (hlater.mono ?_ ?_)
    · exact List.cons_subset_cons _ (List.nil_subset _)
    · exact List.subset_append_of_subset_left _ htrail
    · exact List.subset_cons_self _ _
    · exact List.subset_append_right _ _

/-- Charts whose outputs lead to different files leave one drawing each. -/
theorem leavesDrawings (hnone : ∀ chart ∈ charts, chart.seriesOut = none)
    (hapart : charts.Pairwise fun first second =>
      ∀ fs, ¬ SameFile fs first.outputPath second.outputPath)
    (fs : FileSystem) : LeavesDrawings charts fs (executeAll fs charts).2 := by
  induction charts generalizing fs with
  | nil =>
    intro hok
    exact ⟨[], rfl, rfl, List.nodup_nil, by simp, .refl _ _ fs⟩
  | cons chart charts ih =>
    intro hok
    obtain ⟨hnone, hnones⟩ := List.forall_mem_cons.1 hnone
    obtain ⟨hapart, haparts⟩ := List.pairwise_cons.1 hapart
    have hsucceeds := hok _ (result_mem_executeAll fs chart charts)
    rw [executeAll_cons (Outcome.isOverflow_of_isOk hsucceeds)] at hok ⊢
    obtain ⟨s, hrun⟩ := Chart.execute_eq_ok hsucceeds
    obtain ⟨content, location, hpicture, hdeposits⟩ := Chart.exists_deposits_of_execute hnone hrun
    obtain ⟨drawings, hdrawn⟩ := ih hnones haparts _ (List.forall_mem_cons.1 hok).2
    refine ⟨⟨chart, s, location⟩ :: drawings, ?_⟩
    rw [hrun]
    exact hdrawn.cons hpicture hdeposits fun other hother => hapart other hother _

/-- What a session leaves is what its charts leave. -/
theorem Session.ofArguments_files {arguments : List String} {cl : CommandLine}
    (hparse : CommandLine.parse arguments = .ok cl) (hcharts : cl.charts fs = .ok charts) :
    (Session.ofArguments fs arguments).files = (executeAll fs charts).2 := by
  cases charts with
  | nil =>
    rw [Session.ofArguments, hparse]
    dsimp only
    rw [hcharts]
    rfl
  | cons chart charts =>
    rw [Session.ofArguments_eq hparse hcharts (List.cons_ne_nil _ _)]
    exact Session.ofCharts_files fs _ _

end

namespace Configuration

variable {fs : FileSystem} {path : Path} {text : List Char} {listed : List Chart}

section
variable (base : Path) (hopen : ∀ chart ∈ listed, chart.output = none ∧ chart.seriesOut = none)
include hopen

theorem seriesOut_resolve : ∀ chart ∈ listed.map (Chart.resolve base), chart.seriesOut = none := by
  intro chart hchart
  obtain ⟨chart, hmem, rfl⟩ := List.mem_map.1 hchart
  show chart.seriesOut.map _ = none
  rw [(hopen chart hmem).2, Option.map_none]

theorem outputPath_eq_iff : ∀ chart ∈ listed.map (Chart.resolve base),
    ∀ other ∈ listed.map (Chart.resolve base), chart.outputPath = other.outputPath ↔
      Chart.stemOf chart.input = Chart.stemOf other.input := by
  intro chart hchart other hother
  obtain ⟨chart, hmem, rfl⟩ := List.mem_map.1 hchart
  obtain ⟨other, hmem', rfl⟩ := List.mem_map.1 hother
  exact Chart.outputPath_resolve_eq_iff base (hopen chart hmem).1 (hopen other hmem').1

/-- Tables with different stems are drawn to different files, whatever files there are. -/
theorem pairwise_not_sameFile
    (hstems : ((listed.map (Chart.resolve base)).map fun chart => Chart.stemOf chart.input).Nodup) :
    (listed.map (Chart.resolve base)).Pairwise fun first second =>
      ∀ fs, ¬ SameFile fs first.outputPath second.outputPath := by
  rw [List.map_map, List.nodup_iff_pairwise_ne, List.pairwise_map] at hstems
  rw [List.pairwise_map]
  refine hstems.imp_of_mem fun hfirst hsecond hne fs hsame => hne ?_
  exact Chart.stemOf_eq_of_sameFile base (hopen _ hfirst).1 (hopen _ hsecond).1 hsame

end

/-- Of the charts of a configuration that gives no outputs, those and only those whose tables have the
same stem get the same output. So if the stems are different, then so are the outputs, and a session
in which all charts succeed leaves one picture for each of them. -/
theorem outputs_of_load [Painter] (hread : readText fs path = .ok text) (hparse : parse text = .ok listed)
    (hopen : ∀ chart ∈ listed, chart.output = none ∧ chart.seriesOut = none) :
    ∃ charts, load fs path = .ok charts ∧ charts.length = listed.length ∧
      (∀ i (hi : i < charts.length) (hi' : i < listed.length) stem,
        (listed[i].input).stem? = some stem → Chart.stemOf charts[i].input = stem) ∧
      (∀ chart ∈ charts, ∀ other ∈ charts, chart.outputPath = other.outputPath ↔
        Chart.stemOf chart.input = Chart.stemOf other.input) ∧
      ((charts.map fun chart => Chart.stemOf chart.input).Nodup →
        (charts.map Chart.outputPath).Nodup ∧
        (∀ state ignoreErrors,
          LeavesDrawings charts state (Session.ofCharts state charts ignoreErrors).files) ∧
        ∀ arguments cl, CommandLine.parse arguments = .ok cl → cl.config = some path →
          LeavesDrawings charts fs (Session.ofArguments fs arguments).files) := by
  let base := path.parent?.getD (Path.ofText "")
  have hload := load_of_parse hread hparse
  have houtputs := outputPath_eq_iff base hopen
  refine ⟨_, hload, List.length_map _, fun i hi hi' stem hstem => ?_, houtputs, fun hstems => ?_⟩
  · rw [List.getElem_map]
    show (base.resolve listed[i].input).stem?.getD _ = stem
    rw [Path.stem?_resolve base hstem]
    rfl
  · have hnone := seriesOut_resolve base hopen
    have hapart := pairwise_not_sameFile base hopen hstems
    refine ⟨?_, fun state ignoreErrors => ?_, fun arguments cl hparse hconfig => ?_⟩
    · rw [List.nodup_iff_pairwise_ne, List.pairwise_map] at hstems ⊢
      refine hstems.imp_of_mem fun hfirst hsecond hne heq => hne ?_
      exact (houtputs _ hfirst _ hsecond).1 heq
    · rw [Session.ofCharts_files]
      exact leavesDrawings hnone hapart state
    · have hcharts : cl.charts fs = .ok (listed.map (Chart.resolve base)) := by
        rw [CommandLine.charts, hconfig]
        exact hload
      rw [Session.ofArguments_files hparse hcharts]
      exact leavesDrawings hnone hapart fs

end Configuration

/-- A configuration of two charts whose outputs are not given. -/
def twoCharts (first second : String) : String :=
  s!"[[chart]]\ninput = '{first}'\n[[chart]]\ninput = '{second}'\n"

/-- A working directory with a configuration, and with tables in two other directories. -/
def twoRuns (configuration : String) : FileSystem :=
  let home : Location := ["home".toList]
  ⟨[(home, .directory), (home ++ ["charts.toml".toList], .file configuration.toUTF8),
    (home ++ ["a".toList], .directory), (home ++ ["b".toList], .directory),
    (home ++ ["a".toList, "run.csv".toList], .file shortTable.toUTF8),
    (home ++ ["b".toList, "run.csv".toList], .file shortTable.toUTF8),
    (home ++ ["b".toList, "other.csv".toList], .file shortTable.toUTF8)], home⟩

/-- Different tables with the same stem are drawn to the same file. -/
theorem Configuration.outputs_sameStem :
    let fs := twoRuns (twoCharts "a/run.csv" "b/run.csv")
    ∃ text listed charts, readText fs ⟨"charts.toml".toList⟩ = .ok text ∧ parse text = .ok listed ∧
      (∀ chart ∈ listed, chart.output = none ∧ chart.seriesOut = none) ∧
      (listed.map Chart.input).Nodup ∧ load fs ⟨"charts.toml".toList⟩ = .ok charts ∧
      (charts.map Chart.input).Nodup ∧ ¬ (charts.map Chart.outputPath).Nodup := by
  intro fs
  obtain ⟨text, hread, hlisted⟩ := exists_ok_of_any (o := readText fs ⟨"charts.toml".toList⟩)
    (p := fun text => (parse text).toOption.any (fun listed => decide
      ((∀ chart ∈ listed, chart.output = none ∧ chart.seriesOut = none) ∧
        (listed.map Chart.input).Nodup)) = true)
    (by decide +kernel)
  obtain ⟨listed, hparse, hopen, hinputs⟩ := exists_ok_of_any hlisted
  obtain ⟨charts, hload, hinputs', houtputs⟩ := exists_ok_of_any (o := load fs ⟨"charts.toml".toList⟩)
    (p := fun charts => (charts.map Chart.input).Nodup ∧ ¬ (charts.map Chart.outputPath).Nodup)
    (by decide +kernel)
  exact ⟨text, listed, charts, hread, hparse, hopen, hinputs, hload, hinputs', houtputs⟩

/-- Tables with different stems are drawn to different files. -/
theorem Configuration.outputs_twoRuns :
    let fs := twoRuns (twoCharts "a/run.csv" "b/other.csv")
    ∃ charts, load fs ⟨"charts.toml".toList⟩ = .ok charts ∧ charts.length = 2 ∧
      (charts.map Chart.outputPath).Nodup ∧
      ∃ drawings, Drawn charts (executeAll fs charts).1 fs
        (Session.ofArguments fs ["--config", "charts.toml"]).files drawings := by
  intro fs
  obtain ⟨text, hread, hlisted⟩ := exists_ok_of_any (o := readText fs ⟨"charts.toml".toList⟩)
    (p := fun text => (parse text).toOption.any (fun listed => decide
      (∀ chart ∈ listed, chart.output = none ∧ chart.seriesOut = none)) = true)
    (by decide +kernel)
  obtain ⟨listed, hparse, hopen⟩ := exists_ok_of_any hlisted
  obtain ⟨charts, hload, -, -, -, hdifferent⟩ := outputs_of_load hread hparse hopen
  obtain ⟨charts', hload', hlength, hstems, hsucceed⟩ :=
    exists_ok_of_any (o := load fs ⟨"charts.toml".toList⟩)
      (p := fun charts => charts.length = 2 ∧
        (charts.map fun chart => Chart.stemOf chart.input).Nodup ∧
        ∀ result ∈ (executeAll fs charts).1, Outcome.isOk result = true)
      (by decide +kernel)
  obtain rfl : charts' = charts := Except.ok.inj (hload'.symm.trans hload)
  obtain ⟨houtputs, -, hsession⟩ := hdifferent hstems
  obtain ⟨cl, hcl, hconfig⟩ := exists_ok_of_any (o := CommandLine.parse ["--config", "charts.toml"])
    (p := fun cl => cl.config = some ⟨"charts.toml".toList⟩) (by decide +kernel)
  exact ⟨charts', hload', hlength, houtputs, hsession _ cl hcl hconfig hsucceed⟩

end TelemetryCharts
