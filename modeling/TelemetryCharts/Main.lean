import TelemetryCharts.Session.Snapshot

/-!
# The program

Copies the files that the session may touch, runs the session, and writes back what it has changed.
-/

open TelemetryCharts

namespace TelemetryCharts.Main

/-- What is printed when help is asked for. -/
def help : String :=
  "Usage: telemetry-charts [OPTIONS] [INPUT]\n\n" ++
  "Arguments:\n" ++
  "  [INPUT]                    The telemetry table to chart\n\n" ++
  "Options:\n" ++
  "  -o, --output <OUTPUT>      Where to write the chart, with the extension svg or png\n" ++
  "  -w, --window <WINDOW>      How many rows are averaged [default: 10]\n" ++
  "      --truncate <TRUNCATE>  Chart the first rows of the table only\n" ++
  "      --title <TITLE>        The title above the chart\n" ++
  "      --style <STYLE>        How to decorate the chart: axes or boxed [default: axes]\n" ++
  "      --series-out <PATH>    Also write the derived series as JSON\n" ++
  "  -c, --config <CONFIG>      Make the charts that a TOML file lists\n" ++
  "      --ignore-errors        Succeed even if some charts fail\n" ++
  "  -h, --help                 Print help\n"

/-- What is said about a command line that is not accepted. -/
def usageMessage : UsageError → String
  | .unknownArgument => "unknown argument"
  | .unexpectedValue => "a flag has a value"
  | .missingValue => "a value is missing"
  | .invalidValue => "a value is not valid"
  | .invalidNumber => "a number is not valid"
  | .conflict => "an argument cannot be used twice or with another one"
  | .missingInput => "no telemetry table is given"
  | .helpRequested => help

/-- The absolute text of a location. -/
def absolute (location : Location) : String :=
  String.ofList ('/' :: Path.unsplit location)

/-- What stands at a location. -/
def nodeAt (location : Location) : IO (Option Node) := do
  let file := (← IO.currentDir) / absolute location
  if ← file.isDir then return some .directory
  if ← file.pathExists then return some (.file (← IO.FS.readBinFile file))
  return none

/-- The working directory. -/
def workingDirectory : IO Location := do
  let path := Path.ofText (← IO.currentDir).toString
  return path.segments.filter (· ≠ [])

/-- A copy of what some paths may lead to. -/
def snapshot (paths : List Path) : IO FileSystem := do
  let here ← workingDirectory
  let locations := paths.flatMap (FileSystem.passedBy here)
  let above := (List.range (here.length + 1)).map here.take
  let entries ← (above ++ locations).eraseDups.filterMapM fun location => do
    return (← nodeAt location).map fun node => (location, node)
  return ⟨entries.filter (·.1 ≠ []), here⟩

/-- Makes a change. -/
def makeChange : FileSystem.Change → IO Unit
  | .makeDirectory location => IO.FS.createDirAll (absolute location)
  | .writeFile location content => IO.FS.writeBinFile (absolute location) content
  | .removeFile location => IO.FS.removeFile (absolute location)

/-- How much a level matters, the most important one first. -/
def rank : LogLevel → Nat
  | .error => 0
  | .warn => 1
  | .info => 2
  | .debug => 3

/-- The rank of the least important level that is printed, by its name in the environment. -/
def printedRank (name : Option String) : Nat :=
  match name.map String.toLower with
  | some "debug" => 3
  | some "info" => 2
  | some "warn" => 1
  | _ => 0

/-- Prints what a session has logged and how it ended. -/
def report (session : Session) : IO Unit := do
  let limit := printedRank (← IO.getEnv "TELEMETRY_CHARTS_LOG")
  for entry in session.log do
    if rank entry.level ≤ limit then
      IO.eprintln s!"{entry.level.name} {entry.text}"
  match session.ending with
  | some (.usage .helpRequested) => IO.print help
  | some (.usage e) => IO.eprintln s!"error: {usageMessage e}"
  | some (.failed message) => IO.eprintln s!"Error: {message}"
  | some .overflow => IO.eprintln "attempt to add with overflow"
  | none => pure ()

end TelemetryCharts.Main

/-- Runs a session for the arguments of the command line. -/
def main (arguments : List String) : IO UInt32 := do
  let listed ← Main.snapshot (configurationPath? arguments).toList
  let charts := chartsOf listed arguments
  let paths := (configurationPath? arguments).toList ++ charts.flatMap Chart.paths
  let before ← Main.snapshot paths
  let session := Session.ofArguments before arguments
  (FileSystem.changes before session.files).forM Main.makeChange
  Main.report session
  return UInt32.ofNat (Ending.status session.ending)
