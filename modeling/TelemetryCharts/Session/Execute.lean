import TelemetryCharts.Drawing.Painter
import TelemetryCharts.Series.Derive
import TelemetryCharts.Series.Json

/-!
# Making charts

A chart is made in stages: its format is determined, its series are derived, the series are
exported if that is asked for, and the picture is drawn. Files are only touched by the last two
stages, so what is wrong with the format, the table or the window leaves everything as it was.
-/

namespace TelemetryCharts

/-- An action on files that answers, fails, or ends the session. -/
abbrev Run := ExceptT Stop (StateM FileSystem)

namespace Run

/-- An action on files whose errors become causes. -/
def ofFileAction {α : Type} (action : FileAction α) : Run α :=
  action.adapt fun e => .ofCause (.file e)

/-- Does an action, and says whether it succeeded. -/
def succeeds (action : FileAction Unit) : Run Bool :=
  ExceptT.mk do
    match ← action.run with
    | .ok _ => return .ok true
    | .error _ => return .ok false

/-- An outcome as an action that leaves the files alone. -/
def ofOutcome {α : Type} (o : Outcome α) : Run α :=
  ExceptT.mk (pure o)

/-- Adds what the stage around an action was doing. -/
def within {α : Type} (context : String) (run : Run α) : Run α :=
  run.adapt (Stop.within context)

end Run

namespace Series

/-- The text of the export of a series. -/
def exportText (s : Series Float) : String :=
  s.toJson.print .pretty

/-- Writes the export of a series to a file. -/
def write (s : Series Float) (path : Path) : FileAction Unit := do
  FileSystem.createParents path
  FileSystem.write path s.exportText.toUTF8

variable [Painter]

/-- Draws a picture of a series to a file. If there is no picture in the end, what stands at the path
is removed, if it can be removed. -/
def draw (s : Series Float) (chart : Chart) (format : Format) (path : Path) : Run Unit := do
  let drawn ← match Painter.paint? s chart format with
    | some content => Run.succeeds (FileSystem.write path content)
    | none => pure false
  if !drawn then
    if (← get).contains path then
      let _ ← Run.succeeds (FileSystem.remove path)
    throw (.ofCause .drawing)

/-- Draws a picture of a series to a file whose extension decides on the format. -/
def render (s : Series Float) (chart : Chart) (path : Path) : Run Unit := do
  let format ← Run.ofOutcome (Format.ofPath path)
  Run.ofFileAction (FileSystem.createParents path)
  s.draw chart format path

end Series

namespace Chart

/-- The series of a chart, derived from the table that its input leads to. -/
def derive (fs : FileSystem) (chart : Chart) : Outcome (Series Float) := do
  let frame ← (Frame.load fs chart.input chart.truncate).within "Load telemetry table"
  (frame.series chart.window).within "Transform telemetry series"

/-- Exports the series of a chart if that is asked for. -/
def exportSeries (chart : Chart) (s : Series Float) : Run Unit :=
  match chart.seriesOut with
  | some path => (Run.ofFileAction (s.write path)).within "Write derived series"
  | none => pure ()

/-- Makes a chart, and answers with its series. -/
def execute [Painter] (chart : Chart) : Run (Series Float) := do
  let output := chart.outputPath
  let _ ← Run.ofOutcome (Format.ofPath output)
  let s ← Run.ofOutcome (chart.derive (← get))
  chart.exportSeries s
  (s.render chart output).within s!"Render chart to {Text.quoted output.text}"
  return s

end Chart

end TelemetryCharts
