import TelemetryCharts.Session.Execute

/-!
# Logs

What is logged while a chart is made follows from what its stages find, so it is computed next to
them and does not take part in them.
-/

namespace TelemetryCharts

/-- How important a log entry is. -/
inductive LogLevel
  | debug
  | info
  | warn
  | error
  deriving DecidableEq, Repr

/-- The name of a level in a log. -/
def LogLevel.name : LogLevel → String
  | debug => "DEBUG"
  | info => "INFO"
  | warn => "WARN"
  | error => "ERROR"

/-- One entry of a log. -/
structure LogEntry where
  level : LogLevel
  text : String
  deriving DecidableEq, Repr

namespace LogEntry

def debug (text : String) : LogEntry := ⟨.debug, text⟩
def info (text : String) : LogEntry := ⟨.info, text⟩
def warn (text : String) : LogEntry := ⟨.warn, text⟩
def error (text : String) : LogEntry := ⟨.error, text⟩

end LogEntry

open LogEntry

/-- The text of a natural number in an entry. -/
def shown (n : Nat) : String :=
  Decimal.text n

namespace Frame

/-- What is logged while a frame is loaded. -/
def loadLog (fs : FileSystem) (path : Path) (truncate : Option Nat) : List LogEntry :=
  if !fs.isFile path then []
  else
    debug s!"Loading telemetry table from {path.text}" ::
      match truncate, Frame.load fs path none with
      | some count, .ok whole =>
        [debug s!"Truncating telemetry table from {shown whole.height} to {shown count} rows"]
      | _, _ => []

/-- What is logged while markers are found. -/
def markersLog (frame : Frame) : List LogEntry :=
  match frame.markers with
  | .ok markers => Event.tracked.map fun kind =>
    debug s!"Found {shown (markers.get kind).length} {kind.label} markers"
  | .error _ => []

/-- What is logged about a moving average. -/
def averageLog (frame : Frame) (window : Nat) (average : Smoothed Float) : List LogEntry :=
  if average.values = [] then
    [debug <| s!"Window {shown window} is larger than the {shown frame.height} row table, " ++
      "moving average is empty"]
  else []

/-- The failures of all operations in a frame. -/
def failures (frame : Frame) : Outcome (List UInt64) := do
  failureTotals (← frame.counters ColumnName.getFailCount)
    (← frame.counters ColumnName.putFailCount) (← frame.counters ColumnName.deleteFailCount)

/-- What is logged while series are derived. -/
def seriesLog (frame : Frame) (window : Nat) : List LogEntry :=
  if window = 0 then []
  else
    debug s!"Transforming {shown frame.height} telemetry rows with window {shown window}" ::
      match frame.floats ColumnName.timeStep, frame.floats ColumnName.totalSucc with
      | .ok timeSteps, .ok totalSucc =>
        averageLog frame window (.trailing window timeSteps totalSucc) ++
          if frame.failures.isOk then frame.markersLog else []
      | _, _ => []

end Frame

namespace Chart

/-- What is logged while the series of a chart are derived. -/
def deriveLog (fs : FileSystem) (chart : Chart) : List LogEntry :=
  Frame.loadLog fs chart.input chart.truncate ++
    match Frame.load fs chart.input chart.truncate with
    | .ok frame => frame.seriesLog chart.window
    | .error _ => []

/-- What is logged when a picture has not been drawn, given the files at that time. -/
def notDrawnLog (fs : FileSystem) (path : Path) : List LogEntry :=
  if fs.contains path then
    match ((FileSystem.remove path).run fs).1 with
    | .ok _ => []
    | .error e => [warn s!"Failed to remove partial chart {path.text}: {e.message}"]
  else []

/-- What is logged while the picture of a series is drawn. -/
def renderLog [Painter] (fs : FileSystem) (chart : Chart) (format : Format) (s : Series Float) :
    List LogEntry :=
  let path := chart.outputPath
  match (FileSystem.createParents path).run fs with
  | (.error _, _) => []
  | (.ok _, fs) =>
    debug s!"Rendering {format.name} chart to {path.text}" ::
      match (s.draw chart format path).run fs with
      | (.ok _, _) => []
      | (.error _, _) => notDrawnLog fs path

/-- What is logged when the series of a chart have been exported. -/
def exportLog (chart : Chart) : List LogEntry :=
  match chart.seriesOut with
  | some path => [debug s!"Wrote derived series to {path.text}"]
  | none => []

/-- What is logged while a chart is made. -/
def log [Painter] (fs : FileSystem) (chart : Chart) : List LogEntry :=
  match Format.ofPath chart.outputPath with
  | .error _ => []
  | .ok format =>
    debug s!"Charting {chart.input.text} to {chart.outputPath.text}" :: chart.deriveLog fs ++
      match chart.derive fs with
      | .error _ => []
      | .ok s =>
        match (chart.exportSeries s).run fs with
        | (.error _, _) => []
        | (.ok _, fs) => chart.exportLog ++ chart.renderLog fs format s

end Chart

end TelemetryCharts
