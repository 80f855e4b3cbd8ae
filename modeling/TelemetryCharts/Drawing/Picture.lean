import TelemetryCharts.Decimal.Numeral
import TelemetryCharts.Drawing.Command
import TelemetryCharts.Drawing.Ticks

/-!
# Pictures

A picture is a chart in pixels. Around the plot area there is room for the title, the descriptions
of the axes and the labels of their marks.
-/

namespace TelemetryCharts

/-- A point of a picture, by its column and its row counted from the top. -/
abbrev Pixel := Int × Int

/-- The plot area: its first and last columns and its top and bottom rows. -/
structure PlotArea where
  left : Int
  right : Int
  top : Int
  bottom : Int
  deriving DecidableEq, Repr

namespace PlotArea

/-- The plot area of a picture of a given size. A title needs additional room, even an empty
one. -/
def ofSize (width height : UInt32) (titled : Bool) : PlotArea where
  left := 100
  right := width.toNat - 21
  top := if titled then 55 else 20
  bottom := height.toNat - 81

/-- A whole number that was computed as a double. -/
def wholePixel (x : Float) : Int :=
  x.toInt64.toInt

/-- The place of a value between two pixels at the ends of an axis. Values are moved a little
towards the second one, so that rounding errors do not matter. A range of one value has its place
at half of the length. -/
def place (range : AxisRange Float) (first last : Int) (x : Float) : Int :=
  if range.start == range.stop then (last - first).tdiv 2
  else
    let part := (x - range.start) / (range.stop - range.start)
    let length := last - first
    if length = 0 then last
    else if 0 < length then first + wholePixel (Float.ofInt length * part + 0.001).floor
    else first + wholePixel (Float.ofInt length * part - 0.001).ceil

/-- The pixel of a point in the coordinates of the axes. -/
def pixel (area : PlotArea) (times values : AxisRange Float) (p : Float × Float) : Pixel :=
  (place times area.left area.right p.1, place values area.bottom area.top p.2)

/-- The row in which the last dash of a vertical line ends. Dashes are ten pixels long, with gaps of
six pixels between them, and begin at the bottom. -/
def dashEnd (area : PlotArea) : Int :=
  let rest := (area.bottom - area.top) % 16
  if rest = 0 then area.top + 6
  else if rest ≤ 10 then area.top
  else area.top + rest - 10

end PlotArea

/-- A label next to a mark on an axis. -/
structure AxisLabel where
  position : Int
  text : String
  deriving DecidableEq, Repr

/-- A line of a picture, with dashes or without. -/
structure PictureLine where
  stroke : Stroke
  points : List Pixel
  deriving DecidableEq, Repr

/-- A chart in pixels. -/
structure Picture where
  width : UInt32
  height : UInt32
  title : Option String
  timeDescription : String
  valueDescription : String
  area : PlotArea
  fineGrid : Stroke
  coarseGrid : Stroke
  timeLabels : List AxisLabel
  valueLabels : List AxisLabel
  frame : Option Stroke
  lines : List PictureLine
  dashedLines : List PictureLine
  legendFill : Color × Nat
  legendBorder : Stroke
  legend : List (Stroke × String)

namespace Picture

/-- How many marks an axis has at most. -/
def markLimit : UInt64 := 11

/-- The labels of an axis whose ends are at two pixels. Marks outside of the plot area have
none. -/
def axisLabels (range : AxisRange Float) (first last : Int) : List AxisLabel :=
  ((marks range.start range.stop markLimit).map fun x =>
    ⟨PlotArea.place range first last x, String.ofList (Decimal.rounded x)⟩).filter fun label =>
      min first last ≤ label.position ∧ label.position ≤ max first last

/-- The line without dashes that a command asks for. A line without points is not drawn. -/
def line? (toPixel : Float × Float → Pixel) : Command Float → Option PictureLine
  | .line stroke points _ => if points = [] then none else some ⟨stroke, points.map toPixel⟩
  | .dashed .. => none

/-- The dashed line that a command asks for, up to the end of its last dash. -/
def dashedLine? (area : PlotArea) (toPixel : Float × Float → Pixel) :
    Command Float → Option PictureLine
  | .line .. => none
  | .dashed stroke lower _ _ =>
    some ⟨stroke, [((toPixel lower).1, area.bottom), ((toPixel lower).1, area.dashEnd)]⟩

/-- How the fine grid lines of a style are drawn. -/
def fineGridOf : ChartStyle → Stroke
  | .axes => ⟨.white, 10, 1⟩
  | .boxed => ⟨.black, 1, 1⟩

/-- How the coarse grid lines of a style are drawn. -/
def coarseGridOf : ChartStyle → Stroke
  | .axes => ⟨.black, 1, 1⟩
  | .boxed => ⟨.black, 2, 1⟩

/-- The picture of series in a chart. -/
def ofSeries (s : Series Float) (chart : Chart) : Picture :=
  let area := PlotArea.ofSize chart.width chart.height chart.labels.title.isSome
  let commands := s.commands chart.labels
  let toPixel := area.pixel s.timeRange s.valueRange
  { width := chart.width
    height := chart.height
    title := chart.labels.title
    timeDescription := chart.labels.xAxis
    valueDescription := chart.labels.yAxis
    area
    fineGrid := fineGridOf chart.style
    coarseGrid := coarseGridOf chart.style
    timeLabels := axisLabels s.timeRange area.left area.right
    valueLabels := axisLabels s.valueRange area.bottom area.top
    frame := if chart.style = .boxed then some ⟨.black, 10, 1⟩ else none
    lines := commands.filterMap (line? toPixel)
    dashedLines := commands.filterMap (dashedLine? area toPixel)
    legendFill := (.white, 8)
    legendBorder := ⟨.black, 10, 1⟩
    legend := Command.legend commands }

end Picture

end TelemetryCharts
