import TelemetryCharts.Drawing.Picture

/-!
# Pictures as SVG

A picture is written as SVG, one element on a line.
-/

namespace TelemetryCharts.Svg

/-- A character of text or of an attribute. -/
def escapeChar (c : Char) : List Char :=
  match c with
  | '&' => "&amp;".toList
  | '<' => "&lt;".toList
  | '>' => "&gt;".toList
  | '"' => "&quot;".toList
  | '\'' => "&apos;".toList
  | c => [c]

/-- Text as it stands between tags. -/
def escape (text : String) : String :=
  String.ofList (text.toList.flatMap escapeChar)

/-- The text of an integer. -/
def int (i : Int) : String :=
  String.ofList (Decimal.signedDigits i)

/-- Attributes, each after a blank. -/
def attributes (items : List (String × String)) : String :=
  String.join (items.map fun (name, value) => " " ++ name ++ "=\"" ++ escape value ++ "\"")

/-- An element without content. -/
def element (name : String) (items : List (String × String)) : String :=
  "<" ++ name ++ attributes items ++ "/>\n"

/-- An element that holds text. -/
def textElement (items : List (String × String)) (content : String) : String :=
  "<text" ++ attributes items ++ ">\n" ++ escape content ++ "\n</text>\n"

/-- The attributes of a line. -/
def strokeAttributes (s : Stroke) : List (String × String) :=
  [("opacity", tenths s.opacity), ("stroke", s.color.hex), ("stroke-width", Decimal.text s.width)]

/-- A straight line. -/
def straight (s : Stroke) (a b : Pixel) : String :=
  element "line" (strokeAttributes s ++
    [("x1", int a.1), ("y1", int a.2), ("x2", int b.1), ("y2", int b.2)])

/-- A line through points. -/
def polyline (dashed : Bool) (l : PictureLine) : String :=
  let points := " ".intercalate (l.points.map fun p => int p.1 ++ "," ++ int p.2)
  element "polyline" ([("fill", "none")] ++ strokeAttributes l.stroke ++ [("points", points)] ++
    if dashed then [("stroke-dasharray", "10 6")] else [])

/-- Text at a place. -/
def label (x y : Int) (size : Nat) (anchor content : String) : String :=
  textElement [("x", int x), ("y", int y), ("dy", "0.5ex"), ("text-anchor", anchor),
    ("font-family", "sans-serif"), ("font-size", Decimal.text size),
    ("fill", Color.black.hex)] content

/-- The grid lines and labels of the marks on both axes. -/
def grid (p : Picture) : String :=
  let vertical (s : Stroke) (x : Int) := straight s (x, p.area.top) (x, p.area.bottom)
  let horizontal (s : Stroke) (y : Int) := straight s (p.area.left, y) (p.area.right, y)
  let between (labels : List AxisLabel) : List Int :=
    (labels.zip labels.tail).map fun (a, b) => (a.position + b.position).tdiv 2
  String.join (
    (between p.timeLabels).map (vertical p.fineGrid) ++
    (between p.valueLabels).map (horizontal p.fineGrid) ++
    p.timeLabels.map (fun l => vertical p.coarseGrid l.position) ++
    p.valueLabels.map (fun l => horizontal p.coarseGrid l.position) ++
    p.timeLabels.map (fun l => label l.position (p.area.bottom + 14) 18 "middle" l.text) ++
    p.valueLabels.map (fun l => label (p.area.left - 10) l.position 18 "end" l.text))

/-- The descriptions of both axes and the title. -/
def descriptions (p : Picture) : String :=
  let middle (a b : Int) : Int := (a + b).tdiv 2
  (p.title.elim "" fun title => label (middle 0 p.width.toNat) 37 30 "middle" title) ++
    label 20 (middle p.area.top p.area.bottom) 22 "middle" p.valueDescription ++
    label (middle p.area.left p.area.right) (p.area.bottom + 50) 22 "middle" p.timeDescription

/-- The legend in the upper right corner of the plot area. -/
def legendBox (p : Picture) : String :=
  let width : Int := 230
  let left := p.area.right - width - 5
  let top := p.area.top + 5
  let box (items : List (String × String)) : String :=
    element "rect" ([("x", int left), ("y", int top), ("width", int width),
      ("height", int (22 * p.legend.length + 10))] ++ items)
  let entries := p.legend.zipIdx.map fun ((s, content), i) =>
    let y := top + 16 + 22 * (i : Int)
    straight s (left + 10, y) (left + 30, y) ++ label (left + 40) y 18 "start" content
  box [("fill", p.legendFill.1.hex), ("stroke", "none"), ("opacity", tenths p.legendFill.2)] ++
    box ([("fill", "none")] ++ strokeAttributes p.legendBorder) ++ String.join entries

/-- The frame around the plot area. -/
def frame (p : Picture) (s : Stroke) : String :=
  element "rect" ([("x", int p.area.left), ("y", int p.area.top),
    ("width", int (p.area.right - p.area.left)), ("height", int (p.area.bottom - p.area.top)),
    ("fill", "none")] ++ strokeAttributes s)

/-- The text of a picture, as an element that can stand in a page. -/
def render (p : Picture) : String :=
  let width := Decimal.text p.width.toNat
  let height := Decimal.text p.height.toNat
  "<svg" ++ attributes [("width", width), ("height", height),
    ("viewBox", "0 0 " ++ width ++ " " ++ height)] ++ ">\n" ++
    element "rect" [("x", "0"), ("y", "0"), ("width", width), ("height", height),
      ("fill", Color.white.hex), ("stroke", "none")] ++
    descriptions p ++ grid p ++ p.frame.elim "" (frame p) ++
    String.join (p.lines.map (polyline false)) ++
    String.join (p.dashedLines.map (polyline true)) ++ legendBox p ++ "</svg>\n"

end TelemetryCharts.Svg
