import TelemetryCharts.Proofs.Files.Writing
import TelemetryCharts.Session.Snapshot

/-!
# Stages of a chart

Every stage of making a chart with plain paths keeps to the locations of these paths. So a chart
has the same result in all file systems that agree on them.
-/

namespace TelemetryCharts

open FileSystem

theorem Frame.load_eq {used : List Location} {fs other : FileSystem} {p : Path}
    (h : Agrees used fs other) (hplain : p.IsPlain) (hused : p.location fs.workingDirectory ∈ used)
    (truncate : Option Nat) : Frame.load other p truncate = Frame.load fs p truncate := by
  have hisFile := isFile_eq h hplain hused
  unfold Frame.load
  cases hfile : fs.isFile p with
  | false =>
    rw [hisFile, hfile]
    rfl
  | true => rw [hisFile, hfile, read_eq_of_isFile h hplain hused hfile]

theorem Run.ofFileAction_run {α : Type} (action : FileAction α) (fs : FileSystem) :
    (Run.ofFileAction action).run fs =
      ((action.run fs).1.mapError fun e => .ofCause (.file e), (action.run fs).2) :=
  rfl

theorem Run.ofFileAction_eq_ok {α : Type} {action : FileAction α} {fs after : FileSystem} {x : α}
    (h : (Run.ofFileAction action).run fs = (.ok x, after)) : action.run fs = (.ok x, after) := by
  rw [Run.ofFileAction_run] at h
  cases hrun : action.run fs with
  | mk r files =>
    rw [hrun] at h
    cases r with
    | ok y =>
      cases h
      rfl
    | error e => cases h

namespace Series

variable {scope : Scope} {p : Path}

section
variable (hplain : p.IsPlain) (hwritten : p.location scope.home ∈ scope.written) (s : Series Float)
include hplain hwritten

theorem within_write : Action.Within scope (fun _ => True) (s.write p) :=
  (within_createParents hplain hwritten).bind
    (fun _ => FileSystem.within_write hplain hwritten s.exportText.toUTF8)
    (fun _ _ _ hfs _ _ hrun => ready_of_createParents hplain hfs hrun)

variable [Painter]

/-- What is done after a picture has not been drawn depends on what stands at its path. -/
theorem within_draw (chart : Chart) (format : Format) :
    Action.Within scope (fun fs => fs.Ready p) (s.draw chart format p) := by
  have hremove : ∀ present : Bool, Action.Within scope (fun _ => True) (do
      if present then
        let _ ← Run.succeeds (remove p)
      throw (.ofCause .drawing) : Run Unit) := by
    intro present
    cases present with
    | false => exact .answer (.error _)
    | true => exact (within_remove hplain hwritten).andThen fun _ => .answer (.error _)
  have hpresent : ∀ fs other, Agrees scope.used fs other → fs.workingDirectory = scope.home →
      other.contains p = fs.contains p := by
    intro fs other h hhome
    exact contains_eq h hplain (hhome ▸ scope.used_of_written _ hwritten)
  have hfinish : ∀ drawn : Bool, Action.Within scope (fun _ => True) (do
      if !drawn then
        if (← get).contains p then
          let _ ← Run.succeeds (remove p)
        throw (.ofCause .drawing) : Run Unit) := by
    intro drawn
    cases drawn with
    | false => exact .get_bind hremove hpresent
    | true => exact .answer (.ok ())
  rw [draw]
  cases Painter.paint? s chart format with
  | some content =>
    exact (Run.within_succeeds (FileSystem.within_write hplain hwritten content)).andThen hfinish
  | none => exact Action.Within.andThen (.answer (.ok false)) hfinish

theorem within_render (chart : Chart) :
    Action.Within scope (fun _ => True) (s.render chart p) := by
  have hdraw : ∀ format, Action.Within scope (fun _ => True) (do
      Run.ofFileAction (createParents p)
      s.draw chart format p : Run Unit) := by
    intro format
    apply ((within_createParents hplain hwritten).adapt fun e => Stop.ofCause (.file e)).bind
      (fun _ => s.within_draw hplain hwritten chart format)
    intro fs x after hfs _ _ hrun
    exact ready_of_createParents hplain hfs (Run.ofFileAction_eq_ok hrun)
  exact Action.Within.andThen (.answer (Format.ofPath p)) hdraw

end

end Series

namespace Chart

/-- The paths that a chart writes. -/
def writtenPaths (chart : Chart) : List Path :=
  chart.outputPath :: chart.seriesOut.toList

/-- Says that no path of a chart has dots for directories in it. -/
def HasPlainPaths (chart : Chart) : Prop :=
  ∀ p ∈ chart.paths, p.IsPlain

instance (chart : Chart) : Decidable chart.HasPlainPaths :=
  inferInstanceAs (Decidable (∀ p ∈ chart.paths, _))

theorem writtenPaths_subset (chart : Chart) : chart.writtenPaths ⊆ chart.paths :=
  List.subset_cons_self _ _

/-- The locations that a chart uses and writes. -/
def scope (home : Location) (chart : Chart) : Scope where
  home := home
  used := chart.paths.map (·.location home)
  written := chart.writtenPaths.map (·.location home)
  used_of_written _ hlocation := List.map_subset _ chart.writtenPaths_subset hlocation

variable {home : Location} {chart : Chart} {p : Path}

theorem location_mem_used (home : Location) (hp : p ∈ chart.paths) :
    p.location home ∈ (chart.scope home).used :=
  List.mem_map_of_mem hp

theorem location_mem_written (home : Location) (hp : p ∈ chart.writtenPaths) :
    p.location home ∈ (chart.scope home).written :=
  List.mem_map_of_mem hp

section
variable (hplain : chart.HasPlainPaths)
include hplain

theorem derive_eq {fs other : FileSystem} (h : Agrees (chart.scope home).used fs other)
    (hhome : fs.workingDirectory = home) : chart.derive other = chart.derive fs := by
  have hinput : chart.input ∈ chart.paths := List.mem_cons_self
  have hused : chart.input.location fs.workingDirectory ∈ (chart.scope home).used := by
    rw [hhome]
    exact location_mem_used home hinput
  have hload := Frame.load_eq h (hplain _ hinput) hused chart.truncate
  rw [derive, derive, hload]

theorem within_exportSeries (s : Series Float) :
    Action.Within (chart.scope home) (fun _ => True) (chart.exportSeries s) := by
  unfold exportSeries
  cases hpath : chart.seriesOut with
  | none => exact .answer (.ok ())
  | some path =>
    have hmem : path ∈ chart.writtenPaths := by simp [writtenPaths, hpath]
    have hwrite := s.within_write (hplain path (chart.writtenPaths_subset hmem))
      (location_mem_written home hmem)
    exact (hwrite.adapt _).adapt _

theorem within_execute [Painter] : Action.Within (chart.scope home) (fun _ => True) chart.execute := by
  have hmem : chart.outputPath ∈ chart.writtenPaths := List.mem_cons_self
  have hstages : ∀ o : Outcome (Series Float), Action.Within (chart.scope home) (fun _ => True) (do
      let s ← Run.ofOutcome o
      chart.exportSeries s
      (s.render chart chart.outputPath).within
        s!"Render chart to {Text.quoted chart.outputPath.text}"
      return s : Run (Series Float)) := by
    intro o
    refine Action.Within.andThen (.answer o) fun s => ?_
    refine (within_exportSeries hplain s).andThen fun _ => ?_
    have hrender := s.within_render (hplain _ (chart.writtenPaths_subset hmem))
      (location_mem_written home hmem) chart
    exact (hrender.adapt _).andThen fun _ => .answer (.ok s)
  refine Action.Within.andThen (.answer (Format.ofPath chart.outputPath)) fun _ => ?_
  exact .get_bind hstages fun fs other h hhome => derive_eq hplain h hhome

end

end Chart

end TelemetryCharts
