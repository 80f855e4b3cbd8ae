import TelemetryCharts.Chart.Format
import TelemetryCharts.Drawing.Svg

/-!
# Painters

A painter turns what is to be drawn into the content of a file. It may fail, but it always makes the
same of the same series, chart and format. Charts are made by some painter, whichever it is.
-/

namespace TelemetryCharts

/-- What draws pictures. -/
class Painter where
  /-- The content of a file of some format with the picture of a series in a chart, if it can be
  drawn. -/
  paint? : Series Float → Chart → Format → Option ByteArray

/-- A painter without fonts. In a vector picture text stands as it is, but a bitmap needs its letters
drawn. -/
instance Painter.fontless : Painter where
  paint? s chart
    | .svg => some (Svg.render (Picture.ofSeries s chart)).toUTF8
    | .png => none

end TelemetryCharts
