import TelemetryCharts.Session.CommandLine
import TelemetryCharts.Session.Log

/-!
# Sessions

A session makes the charts that a command line asks for, one after the other. A chart that fails
does not keep the others from being made, but an overflow ends the session at once.
-/

namespace TelemetryCharts

/-- Why a session ended before all charts were tried. -/
inductive Ending
  | usage (e : UsageError)
  | failed (message : String)
  | overflow
  deriving DecidableEq

/-- The status with which a session ends. -/
def Ending.status : Option Ending → Nat
  | none => 0
  | some (.usage .helpRequested) => 0
  | some (.failed _) => 1
  | some (.usage _) => 2
  | some .overflow => 101

/-- The failure that a session ends with, if it ends with one. -/
def Ending.message? : Option Ending → Option String
  | some (.failed message) => some message
  | _ => none

/-- What is logged about the result of a chart. -/
def Chart.resultLog (chart : Chart) : Outcome (Series Float) → List LogEntry
  | .ok s =>
    let count (kind : Event) : String := shown (s.markers.get kind).length
    [.info <| s!"Wrote {chart.outputPath.text} ({shown s.timeSteps.length} rows, " ++
      s!"{shown s.average.values.length} smoothed points, " ++
      s!"{count .startServer} server starts, {count .stopServer} server stops, " ++
      s!"{count .startClient} client starts)"]
  | .error (.failure f) => [.error s!"Failed to chart {chart.input.text}: {f.headline}"]
  | .error .overflow => []

/-- How many of some results are failures. -/
def failureCount (results : List (Outcome (Series Float))) : Nat :=
  results.countP fun r => !Outcome.isOk r

/-- What is logged before the charts of a command line are known. -/
def CommandLine.log (cl : CommandLine) : List LogEntry :=
  match cl.config with
  | some path => [.debug s!"Loading plotter config from {path.text}"]
  | none => []

/-- What a session has done: the files that it leaves, what it has logged, and how it ended. -/
structure Session where
  files : FileSystem
  log : List LogEntry
  ending : Option Ending

section
variable [Painter]

/-- The results of charts that were made one after the other, up to the first overflow, and the
files that they leave. -/
def executeAll (fs : FileSystem) : List Chart → List (Outcome (Series Float)) × FileSystem
  | [] => ([], fs)
  | chart :: charts =>
    let (result, fs) := (chart.execute).run fs
    if Outcome.isOverflow result then ([result], fs)
    else
      let (results, fs) := executeAll fs charts
      (result :: results, fs)

/-- What is logged while charts are made one after the other. -/
def logAll (fs : FileSystem) : List Chart → List LogEntry
  | [] => []
  | chart :: charts =>
    let (result, after) := (chart.execute).run fs
    chart.log fs ++ chart.resultLog result ++
      if Outcome.isOverflow result then [] else logAll after charts

/-- Makes charts. Failures are reported together in the end, as a warning if they are to be
ignored. -/
def Session.ofCharts (fs : FileSystem) (charts : List Chart) (ignoreErrors : Bool) : Session :=
  let (results, files) := executeAll fs charts
  let log := logAll fs charts
  let failed := failureCount results
  let message := s!"{shown failed} out of {shown charts.length} charts failed:"
  if results.any Outcome.isOverflow then ⟨files, log, some .overflow⟩
  else if failed = 0 then ⟨files, log, none⟩
  else if ignoreErrors then ⟨files, log ++ [.warn message], none⟩
  else ⟨files, log, some (.failed message)⟩

/-- Does what the arguments of a command line ask for. -/
def Session.ofArguments (fs : FileSystem) (arguments : List String) : Session :=
  match CommandLine.parse arguments with
  | .error e => ⟨fs, [], some (.usage e)⟩
  | .ok cl =>
    match cl.charts fs with
    | .error (.failure f) => ⟨fs, cl.log, some (.failed f.headline)⟩
    | .error .overflow => ⟨fs, cl.log, some .overflow⟩
    | .ok [] => ⟨fs, cl.log, some (.failed Cause.noCharts.message)⟩
    | .ok charts =>
      let session := Session.ofCharts fs charts cl.ignoreErrors
      { session with log := cl.log ++ session.log }

end

end TelemetryCharts
