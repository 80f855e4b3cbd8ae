import TelemetryCharts.Chart.Toml
import TelemetryCharts.Failure
import TelemetryCharts.Text.Utf8

/-!
# Configurations

A configuration is a TOML document that lists charts. In a file its relative paths start at the
directory of the file.
-/

namespace TelemetryCharts.Configuration

/-- The charts that a document lists. -/
def parse (text : List Char) : Outcome (List Chart) :=
  Outcome.within "Failed to parse plotter config" <|
    match (Toml.parse text).bind Chart.ofTable? with
    | some charts => .ok charts
    | none => fail .configuration

/-- The text of the file that a path leads to. -/
def readText (fs : FileSystem) (path : Path) : Except FileError (List Char) := do
  match Text.ofBytes? (← fs.read path) with
  | some text => return text
  | none => throw .invalidText

/-- The charts that a file lists. -/
def load (fs : FileSystem) (path : Path) : Outcome (List Chart) := do
  let shown := Text.quoted path.text
  let text ← Outcome.within s!"Failed to read plotter config: {shown}" <|
    (readText fs path).mapError fun e => .ofCause (.file e)
  let charts ← Outcome.within s!"In plotter config: {shown}" (parse text)
  return charts.map (Chart.resolve (path.parent?.getD (Path.ofText "")))

end TelemetryCharts.Configuration
