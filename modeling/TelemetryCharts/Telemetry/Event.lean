import TelemetryCharts.Text.Quoted

/-!
# Lifecycle events

A run is marked by events of four kinds. All but the end of the run are tracked, which means that
charts show them.
-/

namespace TelemetryCharts

/-- The kinds of lifecycle events, in the order of their ranks. -/
inductive Event
  | startServer
  | stopServer
  | startClient
  | stopProgram
  deriving DecidableEq, Repr

namespace Event

/-- All kinds. -/
def all : List Event := [startServer, stopServer, startClient, stopProgram]

/-- The kinds that charts show, in the order of the legend. -/
def tracked : List Event := [startServer, stopServer, startClient]

/-- The label by which tables and exports name a kind. -/
def label : Event → String
  | startServer => "START_SERVER"
  | stopServer => "STOP_SERVER"
  | startClient => "START_CLIENT"
  | stopProgram => "STOP_PROGRAM"

/-- The name of a kind in running text. -/
def name : Event → String
  | startServer => "StartServer"
  | stopServer => "StopServer"
  | startClient => "StartClient"
  | stopProgram => "StopProgram"

/-- The kind with a label. Labels are compared exactly. -/
def ofLabel? (label : String) : Option Event :=
  all.find? fun e => e.label = label

/-- What is said about a label that no kind has. -/
def unknownLabel (label : String) : String :=
  s!"Unknown lifecycle event label: {Text.quoted label}"

/-- How many kinds come before this one. -/
def rank : Event → Nat
  | startServer => 0
  | stopServer => 1
  | startClient => 2
  | stopProgram => 3

end Event

end TelemetryCharts
