import TelemetryCharts.Chart.Basic
import TelemetryCharts.Toml.Document

/-!
# Charts in TOML

A configuration lists charts under the key `chart`. Each chart is a table in which only the input
has to be given; what is left out has its default. A table may also be written as an array of its
values in a fixed order, of which the last ones may be left out. Keys without a meaning are passed
over.
-/

namespace TelemetryCharts

open Toml (Value)

namespace Toml.Value

/-- The values under some keys. An array holds them in the order of the keys, and a date holds none
of them. -/
def fields? (keys : List String) : Value → Option (List (Option Value))
  | table entries => some (keys.map fun key => entries.lookup key)
  | array items => some (keys.zipIdx.map fun (_, i) => items[i]?)
  | datetime => some (keys.map fun _ => none)
  | _ => none

/-- The value as text. -/
def text? : Value → Option String
  | string s => some s
  | _ => none

/-- The value as a path. -/
def path? (v : Value) : Option Path :=
  v.text?.map Path.ofText

/-- The value as a natural number. -/
def natural? : Value → Option Nat
  | integer i => if 0 ≤ i then some i.toInt.toNat else none
  | _ => none

/-- The value as a number of pixels. -/
def pixels? (v : Value) : Option UInt32 := do
  let n ← v.natural?
  if n < UInt32.size then some (UInt32.ofNat n) else none

/-- The style with a name. -/
def style? : String → Option ChartStyle
  | "axes" => some .axes
  | "boxed" => some .boxed
  | _ => none

/-- The value as a style: its name, or a table with nothing but an empty table under the name. -/
def chartStyle? : Value → Option ChartStyle
  | string s => style? s
  | table [(name, table [])] => style? name
  | table [(name, array [])] => style? name
  | _ => none

/-- What `read?` makes of a value, and a default where there is no value. -/
def orDefault {α : Type} (default : α) (read? : Value → Option α) : Option Value → Option α
  | some v => read? v
  | none => some default

/-- What `read?` makes of a value that may be left out. -/
def optional {α : Type} (read? : Value → Option α) : Option Value → Option (Option α)
  | some v => (read? v).map some
  | none => some none

/-- The keys of the text on a chart. -/
def labelKeys : List String :=
  ["title", "x_axis", "y_axis", "successful", "unsuccessful", "server_start", "server_stop",
    "client_start"]

/-- The value as the text on a chart. -/
def labels? (v : Value) : Option Labels := do
  let default : Labels := {}
  match ← v.fields? labelKeys with
  | [title, xAxis, yAxis, successful, unsuccessful, serverStart, serverStop, clientStart] =>
    return {
      title := ← optional text? title
      xAxis := ← orDefault default.xAxis text? xAxis
      yAxis := ← orDefault default.yAxis text? yAxis
      successful := ← orDefault default.successful text? successful
      unsuccessful := ← orDefault default.unsuccessful text? unsuccessful
      serverStart := ← orDefault default.serverStart text? serverStart
      serverStop := ← orDefault default.serverStop text? serverStop
      clientStart := ← orDefault default.clientStart text? clientStart }
  | _ => none

/-- The keys of a chart. -/
def chartKeys : List String :=
  ["input", "output", "window", "truncate", "style", "labels", "width", "height", "series_out"]

/-- The value as a chart. -/
def chart? (v : Value) : Option Chart := do
  match ← v.fields? chartKeys with
  | [input, output, window, truncate, style, labels, width, height, seriesOut] =>
    return {
      input := ← (← input).path?
      output := ← optional path? output
      window := ← orDefault defaultWindow natural? window
      truncate := ← optional natural? truncate
      style := ← orDefault default chartStyle? style
      labels := ← orDefault {} labels? labels
      width := ← orDefault defaultWidth pixels? width
      height := ← orDefault defaultHeight pixels? height
      seriesOut := ← optional path? seriesOut }
  | _ => none

/-- The value as charts. -/
def charts? : Value → Option (List Chart)
  | array items => items.mapM chart?
  | _ => none

end Toml.Value

/-- The charts that a table lists. -/
def Chart.ofTable? (t : Toml.Table) : Option (List Chart) :=
  Value.orDefault [] Value.charts? (t.lookup "chart")

end TelemetryCharts
