import TelemetryCharts.Session.Program

/-!
# Snapshots

A session works on a copy of the files that it may touch. What it may touch is known from its
charts before they are made, and what it has changed is found by comparing the copy with what it
was.
-/

namespace TelemetryCharts

namespace FileSystem

/-- The locations that are passed when segments are followed from a directory. -/
def passed (here : Location) : List (List Char) → List Location
  | [] => []
  | name :: rest =>
    let next :=
      if Path.isIdle name then here
      else if name = ['.', '.'] then here.dropLast
      else here ++ [name]
    next :: passed next rest

/-- The locations that are passed when a path is followed. -/
def passedBy (workingDirectory : Location) (path : Path) : List Location :=
  passed (if path.isAbsolute then [] else workingDirectory) path.segments

/-- One step on the way from one file system to another. -/
inductive Change
  | makeDirectory (location : Location)
  | writeFile (location : Location) (content : ByteArray)
  | removeFile (location : Location)

/-- What has to be removed from `before`, and what has to be made or written, to arrive at `after`.
A directory is made before what lies in it. -/
def changes (before after : FileSystem) : List Change :=
  let gone := before.entries.filterMap fun (location, _) =>
    if (after.node? location).isNone then some (.removeFile location) else none
  let fresh := after.entries.filter fun (location, node) => before.node? location ≠ some node
  let ordered := fresh.mergeSort fun a b => a.1.length ≤ b.1.length
  gone ++ ordered.map fun (location, node) =>
    match node with
    | .directory => .makeDirectory location
    | .file content => .writeFile location content

end FileSystem

/-- The paths that a chart reads or writes. -/
def Chart.paths (chart : Chart) : List Path :=
  [chart.input, chart.outputPath] ++ chart.seriesOut.toList

/-- The path of the configuration that arguments ask for. -/
def configurationPath? (arguments : List String) : Option Path :=
  match CommandLine.parse arguments with
  | .ok cl => cl.config
  | .error _ => none

/-- The charts that arguments ask for, given the files. -/
def chartsOf (fs : FileSystem) (arguments : List String) : List Chart :=
  match CommandLine.parse arguments with
  | .ok cl =>
    match cl.charts fs with
    | .ok charts => charts
    | .error _ => []
  | .error _ => []

end TelemetryCharts
