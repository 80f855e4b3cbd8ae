/-!
# Writing tables

A table is written one row on a line, with commas between fields. A field that holds a comma, a
quote or part of a line end stands in quotes, with every quote in it doubled.
-/

namespace TelemetryCharts.Table

/-- Says whether a character cannot stand in a field without quotes. -/
def needsQuotes (c : Char) : Bool :=
  c = ',' || c = '"' || c = '\r' || c = '\n'

/-- Text with every quote doubled. -/
def doubleQuotes (text : List Char) : List Char :=
  text.flatMap fun c => if c = '"' then ['"', '"'] else [c]

/-- A field of a row. -/
def renderField (text : List Char) : List Char :=
  if text.any needsQuotes then '"' :: doubleQuotes text ++ ['"'] else text

/-- Fields with commas between them. -/
def renderFields : List (List Char) → List Char
  | [] => []
  | [field] => renderField field
  | field :: fields => renderField field ++ ',' :: renderFields fields

/-- A row with its line end. -/
def renderRow (fields : List (List Char)) : List Char :=
  renderFields fields ++ ['\n']

/-- Rows, one after the other. -/
def render (rows : List (List (List Char))) : List Char :=
  rows.flatMap renderRow

end TelemetryCharts.Table
