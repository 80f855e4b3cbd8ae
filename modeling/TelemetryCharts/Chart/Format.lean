import TelemetryCharts.Failure

/-!
# Formats of chart files

The extension of a path decides on the format, whatever its case.
-/

namespace TelemetryCharts

/-- The formats in which charts are drawn. -/
inductive Format
  | svg
  | png
  deriving DecidableEq, Repr

namespace Format

/-- The name of a format in running text. -/
def name : Format → String
  | svg => "Svg"
  | png => "Png"

/-- The extension of a path in small letters. -/
def extension? (path : Path) : Option String :=
  path.extension?.map fun cs => String.ofList (cs.map Char.toLower)

/-- The format of the file that a path names. -/
def ofPath (path : Path) : Outcome Format :=
  match extension? path with
  | some "svg" => .ok svg
  | some "png" => .ok png
  | extension => fail (.unsupportedFormat path extension)

end Format

end TelemetryCharts
