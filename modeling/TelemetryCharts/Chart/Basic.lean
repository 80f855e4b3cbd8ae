import TelemetryCharts.Path
import TelemetryCharts.Telemetry.Event

/-!
# Charts

A chart says which table to read, what to make of it, and where to draw it. Only the table has to
be given.
-/

namespace TelemetryCharts

/-- How a chart is decorated: with axes over a faint grid, or with a frame around a full grid. -/
inductive ChartStyle
  | axes
  | boxed
  deriving DecidableEq, Repr

instance : Inhabited ChartStyle where
  default := .axes

/-- The text on a chart. -/
structure Labels where
  title : Option String := none
  xAxis : String := "Time (s)"
  yAxis : String := "Operations"
  successful : String := "Successful ops."
  unsuccessful : String := "Unsuccessful ops."
  serverStart : String := "Server start"
  serverStop : String := "Server stop"
  clientStart : String := "Client start"
  deriving DecidableEq, Repr

/-- The entry in the legend for a kind of event. A kind that is not tracked has none. -/
def Labels.marker? (labels : Labels) : Event → Option String
  | .startServer => some labels.serverStart
  | .stopServer => some labels.serverStop
  | .startClient => some labels.clientStart
  | .stopProgram => none

/-- The window of the moving average unless another one is asked for. -/
def defaultWindow : Nat := 10

/-- The width of a picture in pixels unless another one is asked for. -/
def defaultWidth : UInt32 := 1200

/-- The height of a picture in pixels unless another one is asked for. -/
def defaultHeight : UInt32 := 700

/-- The directory for charts whose place is not given. -/
def defaultOutputDirectory : String := "plots"

/-- What to draw and where. -/
structure Chart where
  input : Path
  output : Option Path
  window : Nat
  truncate : Option Nat
  style : ChartStyle
  labels : Labels
  width : UInt32
  height : UInt32
  seriesOut : Option Path
  deriving DecidableEq

namespace Chart

/-- The chart of a table with everything else left open. -/
def new (input : Path) : Chart where
  input := input
  output := none
  window := defaultWindow
  truncate := none
  style := default
  labels := {}
  width := defaultWidth
  height := defaultHeight
  seriesOut := none

/-- The path that a chart gets from the name of its table. -/
def defaultOutput (input : Path) : Path :=
  let stem := input.stem?.getD "chart".toList
  (Path.ofText defaultOutputDirectory).resolve ⟨stem ++ ".svg".toList⟩

/-- Where the chart is drawn. -/
def outputPath (chart : Chart) : Path :=
  chart.output.getD (defaultOutput chart.input)

/-- The chart with its paths taken as relative to `base`. A path for the output that is not given
is settled by this, from the name of the table. -/
def resolve (base : Path) (chart : Chart) : Chart :=
  let settled := { chart with input := base.resolve chart.input }
  { settled with
    output := some (base.resolve settled.outputPath)
    seriesOut := chart.seriesOut.map base.resolve }

end Chart

end TelemetryCharts
