import TelemetryCharts.Series.Merge
import TelemetryCharts.Telemetry.Event

/-!
# Event markers

Markers say at which rows, and so at which times, events of each kind were signalled. The rows of
all markers together are found by merging the lists of the kinds.
-/

namespace TelemetryCharts

/-- An event in a table: the position of its row and the time step of that row. -/
structure Marker (α : Type) where
  row : Nat
  timeStep : α
  deriving DecidableEq, Repr

/-- The markers of each kind of event. A kind without an entry differs from one whose entry is
empty, although neither has markers. -/
structure Markers (α : Type) where
  entry? : Event → Option (List (Marker α))

namespace Markers

variable {α : Type}

/-- Markers with an empty entry for each tracked kind. -/
def empty : Markers α :=
  ⟨fun kind => if kind ∈ Event.tracked then some [] else none⟩

/-- Markers with a new entry for a kind, in place of the one it had. -/
def insert (kind : Event) (found : List (Marker α)) (markers : Markers α) : Markers α :=
  ⟨fun k => if k = kind then some found else markers.entry? k⟩

/-- The markers of a kind. -/
def get (markers : Markers α) (kind : Event) : List (Marker α) :=
  (markers.entry? kind).getD []

/-- The times at which events of a kind were signalled. -/
def timeSteps (markers : Markers α) (kind : Event) : List α :=
  (markers.get kind).map Marker.timeStep

/-- The kinds that have an entry, with their markers. -/
def entries (markers : Markers α) : List (Event × List (Marker α)) :=
  Event.all.filterMap fun kind => (markers.entry? kind).map fun found => (kind, found)

/-- The rows of the markers of all kinds. -/
def rows (markers : Markers α) : List Nat :=
  mergeHeads (markers.entries.map fun (_, found) => found.map Marker.row)

/-- How many markers there are. -/
def total (markers : Markers α) : Nat :=
  (markers.entries.map fun (_, found) => found.length).foldl (· + ·) 0

/-- The markers of a kind in a table, given the labels and the time steps of its rows. -/
def find (kind : Event) (timeSteps : List α) (labels : List (Option String)) : List (Marker α) :=
  (labels.zip timeSteps).zipIdx.filterMap fun ((label, timeStep), row) =>
    if label = some kind.label then some ⟨row, timeStep⟩ else none

/-- The markers of the tracked kinds in a table. -/
def ofLabels (timeSteps : List α) (labels : List (Option String)) : Markers α :=
  Event.tracked.foldl (fun markers kind => markers.insert kind (find kind timeSteps labels)) empty

end Markers

end TelemetryCharts
