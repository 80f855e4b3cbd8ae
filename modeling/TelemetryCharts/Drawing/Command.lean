import TelemetryCharts.Chart.Basic
import TelemetryCharts.Drawing.Axis
import TelemetryCharts.Drawing.Stroke

/-!
# What is drawn

A chart is drawn as lines in the coordinates of its axes: one through the moving average, one
through the failures, and a vertical dashed line for each marker. A line may bring an entry for the
legend with it; of the markers of one kind only the first one does.
-/

namespace TelemetryCharts

/-- A line in the coordinates of the axes. -/
inductive Command (α : Type)
  | line (stroke : Stroke) (points : List (α × α)) (entry : String)
  | dashed (stroke : Stroke) (lower upper : α × α) (entry : Option String)
  deriving DecidableEq, Repr

namespace Command

/-- How a line is drawn. -/
def stroke {α : Type} : Command α → Stroke
  | line stroke _ _ => stroke
  | dashed stroke _ _ _ => stroke

/-- The entry that a line brings to the legend. -/
def entry? {α : Type} : Command α → Option String
  | line _ _ entry => some entry
  | dashed _ _ _ entry => entry

end Command

/-- The colour of the markers of a kind. -/
def Event.color : Event → Color
  | .startServer => .pureGreen
  | .stopServer => .pureRed
  | .startClient => .black
  | .stopProgram => .black

/-- How the markers of a kind are drawn. -/
def Event.stroke (kind : Event) : Stroke :=
  ⟨kind.color, 5, 2⟩

namespace Series

variable {α : Type} [Scale α]

/-- The lines for the markers of a kind. -/
def markerCommands (s : Series α) (labels : Labels) (kind : Event) : List (Command α) :=
  let values := s.valueRange
  (s.markers.timeSteps kind).zipIdx.map fun (timeStep, i) =>
    .dashed kind.stroke (timeStep, values.start) (timeStep, values.stop)
      (if i = 0 then labels.marker? kind else none)

/-- All lines of a chart, in the order in which they are drawn. -/
def commands (s : Series α) (labels : Labels) : List (Command α) :=
  [.line ⟨.success, 10, 3⟩ s.average.points labels.successful,
    .line ⟨.failure, 10, 3⟩ s.failurePoints labels.unsuccessful] ++
  Event.tracked.flatMap (s.markerCommands labels)

end Series

/-- The entries that lines bring to the legend, and how each is drawn. -/
def Command.legend {α : Type} (commands : List (Command α)) : List (Stroke × String) :=
  commands.filterMap fun c => c.entry?.map fun entry => (c.stroke, entry)

end TelemetryCharts
