import TelemetryCharts.Proofs.Files.Readback
import TelemetryCharts.Proofs.Session.Stages

/-!
# Runs of charts

A chart is made stage by stage, and the first stage that fails decides on the failure. A picture that
has been drawn is a deposited file, and so is an export. A picture that has not been drawn leaves no
file at its path.
-/

namespace TelemetryCharts

open FileSystem

namespace Run

variable {α : Type}

theorem ofOutcome_run (o : Outcome α) (fs : FileSystem) : (Run.ofOutcome o).run fs = (o, fs) :=
  rfl

theorem within_run (context : String) (run : Run α) (fs : FileSystem) :
    (run.within context).run fs =
      (((run.run fs).1).mapError (Stop.within context), (run.run fs).2) :=
  rfl

end Run

namespace Series

variable {fs after : FileSystem} {s : Series Float} {chart : Chart} {p : Path}

/-- An export that has been written is a deposited file. One that has not been written leaves new
directories at the most. -/
theorem write_cases (s : Series Float) (p : Path) (fs : FileSystem) :
    (∃ location after, (s.write p).run fs = (.ok (), after) ∧
        Deposits p s.exportText.toUTF8 location fs after) ∨
      ∃ e after, (s.write p).run fs = (.error e, after) ∧
        ChangesOnly [] (p.trail fs.workingDirectory) fs after := by
  have habove := changesOnly_createParents fs p
  rw [Series.write, Action.run_bind]
  cases hparents : (createParents p).run fs with
  | mk r middle =>
    rw [hparents] at habove
    cases r with
    | error e => exact .inr ⟨e, middle, rfl, habove⟩
    | ok x =>
      dsimp only
      cases hwrite : (FileSystem.write p s.exportText.toUTF8).run middle with
      | mk r after =>
        cases r with
        | ok x =>
          obtain ⟨location, hdeposits⟩ := exists_deposits hparents hwrite
          exact .inl ⟨location, after, rfl, hdeposits⟩
        | error e =>
          rw [write_run] at hwrite
          split at hwrite <;> cases hwrite
          exact .inr ⟨e, middle, rfl, habove⟩

/-- What is done when a picture has not been drawn takes away the file at its path. -/
theorem clean_run (fs : FileSystem) (p : Path) :
    (do
      if (← get).contains p then
        let _ ← Run.succeeds (remove p)
      throw (.ofCause .drawing) : Run Unit).run fs = (.error (.ofCause .drawing), fs.without p) := by
  rw [Action.run_bind, Action.run_get]
  dsimp only
  cases hpresent : fs.contains p with
  | false =>
    rw [without, fileOf?_of_not_contains hpresent]
    rfl
  | true =>
    rw [if_pos rfl, Action.run_bind, remove_run, without]
    cases fileOf? (fs.find p) <;> rfl

section
variable [Painter]

/-- What the file of a chart holds when a series has been drawn to it, if that can be drawn in the
format of the file. -/
def picture? (s : Series Float) (chart : Chart) (p : Path) : Option ByteArray :=
  (Format.ofPath p).toOption.bind (Painter.paint? s chart)

/-- Drawing writes what is painted, or it fails and takes away the file at the path. -/
theorem draw_cases (s : Series Float) (chart : Chart) (format : Format) (p : Path) (fs : FileSystem) :
    (∃ content after, (s.draw chart format p).run fs = (.ok (), after) ∧
        Painter.paint? s chart format = some content ∧
        (FileSystem.write p content).run fs = (.ok (), after)) ∨
      (s.draw chart format p).run fs = (.error (.ofCause .drawing), fs.without p) := by
  rw [draw]
  cases Painter.paint? s chart format with
  | none => exact .inr (clean_run fs p)
  | some content =>
    dsimp only
    rw [Action.run_bind, Run.succeeds_run, write_run]
    cases hplace : placeOf (fs.find p) with
    | ok location => exact .inl ⟨content, _, rfl, rfl, by rw [write_run, hplace]⟩
    | error e => exact .inr (clean_run fs p)

/-- A picture that has been drawn is a deposited file. If it has not been drawn, there is no file at
its path, and no other file has changed. -/
theorem render_cases {format : Format} (hformat : Format.ofPath p = .ok format) (s : Series Float)
    (chart : Chart) (fs : FileSystem) :
    (∃ content location after, (s.render chart p).run fs = (.ok (), after) ∧
        s.picture? chart p = some content ∧ Deposits p content location fs after) ∨
      ∃ stop after, (s.render chart p).run fs = (.error stop, after) ∧
        Withdraws p (p.trail fs.workingDirectory) fs after := by
  have habove := changesOnly_createParents fs p
  rw [render, Action.run_bind, Run.ofOutcome_run, hformat]
  dsimp only
  rw [Action.run_bind, Run.ofFileAction_run]
  cases hparents : (createParents p).run fs with
  | mk r middle =>
    rw [hparents] at habove
    cases r with
    | error e =>
      refine .inr ⟨_, middle, rfl, ⟨[], habove, by simp⟩, fun location hplace => ?_⟩
      obtain ⟨destination, hfind, -⟩ := placeOf_eq_ok_iff_exists.1 hplace
      exact absurd hfind (find_of_createParents_error hparents destination)
    | ok x =>
      rcases s.draw_cases chart format p middle with ⟨content, after, hdraw, hpaint, hwrite⟩ | hdraw
      · obtain ⟨location, hdeposits⟩ := exists_deposits hparents hwrite
        refine .inl ⟨content, location, after, hdraw, ?_, hdeposits⟩
        rw [picture?, hformat]
        exact hpaint
      · obtain ⟨⟨written, hchanges, hwritten⟩, hnothing⟩ := withdraws_without middle p
        refine .inr ⟨_, _, hdraw, ⟨written, ?_, hwritten⟩, hnothing⟩
        exact (habove.mono (List.nil_subset _) (List.Subset.refl _)).trans
          (hchanges.mono (List.Subset.refl _) (List.nil_subset _))

/-- A picture that has been drawn is what its file holds. -/
theorem read_of_render (h : (s.render chart p).run fs = (.ok (), after)) :
    ∃ content, s.picture? chart p = some content ∧ after.read p = .ok content := by
  cases hformat : Format.ofPath p with
  | error stop =>
    rw [render, Action.run_bind, Run.ofOutcome_run, hformat] at h
    cases h
  | ok format =>
    rcases s.render_cases hformat chart fs with
      ⟨content, location, other, hrun, hpicture, hdeposits⟩ | ⟨stop, other, hrun, -⟩
    · rw [hrun] at h
      cases h
      exact ⟨content, hpicture, hdeposits.read⟩
    · rw [hrun] at h
      cases h

end

end Series

namespace Chart

variable {fs after : FileSystem} {chart : Chart} {s : Series Float}

/-- The stages of a chart. Nothing is written before the series has been derived. -/
theorem execute_run [Painter] (chart : Chart) (fs : FileSystem) :
    (chart.execute).run fs =
      match Format.ofPath chart.outputPath with
      | .error stop => (.error stop, fs)
      | .ok _ =>
        match chart.derive fs with
        | .error stop => (.error stop, fs)
        | .ok s =>
          match (chart.exportSeries s).run fs with
          | (.error stop, exported) => (.error stop, exported)
          | (.ok _, exported) =>
            match (s.render chart chart.outputPath).run exported with
            | (.error stop, after) =>
              (.error (stop.within s!"Render chart to {Text.quoted chart.outputPath.text}"), after)
            | (.ok _, after) => (.ok s, after) := by
  rw [execute, Action.run_bind, Run.ofOutcome_run]
  cases Format.ofPath chart.outputPath with
  | error stop => rfl
  | ok format =>
    dsimp only
    rw [Action.run_bind, Action.run_get]
    dsimp only
    rw [Action.run_bind, Run.ofOutcome_run]
    cases chart.derive fs with
    | error stop => rfl
    | ok s =>
      dsimp only
      rw [Action.run_bind]
      cases (chart.exportSeries s).run fs with
      | mk r exported =>
        cases r with
        | error stop => rfl
        | ok x =>
          dsimp only
          rw [Action.run_bind, Run.within_run]
          cases (s.render chart chart.outputPath).run exported with
          | mk r after => cases r <;> rfl

theorem execute_eq_ok [Painter] (h : Outcome.isOk ((chart.execute).run fs).1 = true) :
    ∃ s, (chart.execute).run fs = (.ok s, ((chart.execute).run fs).2) := by
  cases hrun : (chart.execute).run fs with
  | mk r after =>
    rw [hrun] at h
    cases r with
    | ok s => exact ⟨s, rfl⟩
    | error stop => cases h

theorem execute_eq_error [Painter] (h : Outcome.isOk ((chart.execute).run fs).1 = false) :
    ∃ stop, (chart.execute).run fs = (.error stop, ((chart.execute).run fs).2) := by
  cases hrun : (chart.execute).run fs with
  | mk r after =>
    rw [hrun] at h
    cases r with
    | ok s => cases h
    | error stop => exact ⟨stop, rfl⟩

/-- Says what is there when the series of a chart has been exported: nothing new if that is not asked
for, and else a deposited file. -/
inductive Exported (chart : Chart) (s : Series Float) (before : FileSystem) : FileSystem → Prop
  | nothing (hpath : chart.seriesOut = none) : Exported chart s before before
  | file {p : Path} {location : Location} {exported : FileSystem} (hpath : chart.seriesOut = some p)
    (hdeposits : Deposits p s.exportText.toUTF8 location before exported) :
    Exported chart s before exported

/-- The locations that are passed on the way to the parents of the paths that a chart writes. -/
def trail (home : Location) (chart : Chart) : List Location :=
  chart.writtenPaths.flatMap (·.trail home)

theorem trail_subset (home : Location) {p : Path} (hp : p ∈ chart.writtenPaths) :
    p.trail home ⊆ chart.trail home :=
  fun _ hlocation => List.mem_flatMap.2 ⟨p, hp, hlocation⟩

theorem outputPath_mem_writtenPaths (chart : Chart) : chart.outputPath ∈ chart.writtenPaths :=
  List.mem_cons_self

theorem mem_writtenPaths_of_seriesOut {p : Path} (hpath : chart.seriesOut = some p) :
    p ∈ chart.writtenPaths := by
  simp [writtenPaths, hpath]

/-- The series of a chart is exported, or new directories are left at the most. -/
theorem exportSeries_cases (chart : Chart) (s : Series Float) (fs : FileSystem) :
    (∃ exported, (chart.exportSeries s).run fs = (.ok (), exported) ∧
        chart.Exported s fs exported) ∨
      ∃ stop exported, (chart.exportSeries s).run fs = (.error stop, exported) ∧
        ChangesOnly [] (chart.trail fs.workingDirectory) fs exported := by
  rw [exportSeries]
  cases hpath : chart.seriesOut with
  | none => exact .inl ⟨fs, rfl, .nothing hpath⟩
  | some p =>
    dsimp only
    rw [Run.within_run, Run.ofFileAction_run]
    rcases s.write_cases p fs with ⟨location, exported, hrun, hdeposits⟩ | ⟨e, exported, hrun, habove⟩
    · rw [hrun]
      exact .inl ⟨exported, rfl, .file hpath hdeposits⟩
    · rw [hrun]
      have htrail := chart.trail_subset fs.workingDirectory (mem_writtenPaths_of_seriesOut hpath)
      exact .inr ⟨_, exported, rfl, habove.mono (List.Subset.refl _) htrail⟩

section
variable [Painter]

/-- What comes of a chart, by the stage that decides on it. -/
inductive Execution (chart : Chart) (before : FileSystem) :
    Outcome (Series Float) → FileSystem → Prop
  | unsupported {stop : Stop} (hformat : Format.ofPath chart.outputPath = .error stop) :
    Execution chart before (.error stop) before
  | underived {format : Format} {stop : Stop} (hformat : Format.ofPath chart.outputPath = .ok format)
    (hderive : chart.derive before = .error stop) : Execution chart before (.error stop) before
  | unexported {s : Series Float} {stop : Stop} {after : FileSystem}
    (hderive : chart.derive before = .ok s)
    (hexport : (chart.exportSeries s).run before = (.error stop, after))
    (hchanges : ChangesOnly [] (chart.trail before.workingDirectory) before after) :
    Execution chart before (.error stop) after
  | undrawn {s : Series Float} {stop : Stop} {exported after : FileSystem}
    (hderive : chart.derive before = .ok s)
    (hexport : (chart.exportSeries s).run before = (.ok (), exported))
    (hexported : chart.Exported s before exported)
    (hwithdraws : Withdraws chart.outputPath (chart.outputPath.trail exported.workingDirectory)
      exported after) : Execution chart before (.error stop) after
  | drawn {s : Series Float} {exported after : FileSystem} {content : ByteArray} {location : Location}
    (hderive : chart.derive before = .ok s) (hexported : chart.Exported s before exported)
    (hpicture : s.picture? chart chart.outputPath = some content)
    (hdrawn : Deposits chart.outputPath content location exported after) :
    Execution chart before (.ok s) after

/-- Every run of a chart is decided on by one of its stages. -/
theorem execution_of_execute {r : Outcome (Series Float)} {after : FileSystem}
    (hrun : (chart.execute).run fs = (r, after)) : chart.Execution fs r after := by
  rw [execute_run] at hrun
  cases hformat : Format.ofPath chart.outputPath with
  | error stop =>
    rw [hformat] at hrun
    cases hrun
    exact .unsupported hformat
  | ok format =>
    rw [hformat] at hrun
    dsimp only at hrun
    cases hderive : chart.derive fs with
    | error stop =>
      rw [hderive] at hrun
      cases hrun
      exact .underived hformat hderive
    | ok s =>
      rw [hderive] at hrun
      dsimp only at hrun
      rcases chart.exportSeries_cases s fs with
        ⟨exported, hexport, hexported⟩ | ⟨stop, exported, hexport, hchanges⟩
      · rw [hexport] at hrun
        dsimp only at hrun
        rcases s.render_cases hformat chart exported with
          ⟨content, location, drawn, hrender, hpicture, hdrawn⟩ | ⟨stop, drawn, hrender, hwithdraws⟩
        · rw [hrender] at hrun
          cases hrun
          exact .drawn hderive hexported hpicture hdrawn
        · rw [hrender] at hrun
          cases hrun
          exact .undrawn hderive hexport hexported hwithdraws
      · rw [hexport] at hrun
        cases hrun
        exact .unexported hderive hexport hchanges

end

end Chart

end TelemetryCharts
