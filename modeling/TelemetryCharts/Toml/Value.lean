/-!
# TOML values

A document is a table. Tables that are written with headers, with dotted keys or in braces are the
same once the document has been read.
-/

namespace TelemetryCharts.Toml

/-- What a key of a table may hold. Dates and times are only known to be there. -/
inductive Value
  | string (s : String)
  | integer (i : Int64)
  | float (x : Float)
  | boolean (b : Bool)
  | datetime
  | array (items : List Value)
  | table (entries : List (String × Value))

/-- The entries of a table. -/
abbrev Table := List (String × Value)

end TelemetryCharts.Toml
