import TelemetryCharts.Json.Value

/-!
# Printing JSON

A style says how values are laid out: where lines break and what follows a colon. Empty arrays and
objects are closed at once in every style.
-/

namespace TelemetryCharts.Json

open Decimal

/-- The layout of printed values. `lineBreak depth` stands before what lies `depth` levels deep. -/
structure Style where
  lineBreak : Nat → List Char
  afterColon : List Char

/-- Everything on one line, without blanks. -/
def Style.compact : Style := ⟨fun _ => [], []⟩

/-- One item or member on a line, indented by two spaces for each level. -/
def Style.pretty : Style := ⟨fun depth => '\n' :: List.replicate (2 * depth) ' ', [' ']⟩

/-- Parts with commas between them. -/
def commaSeparated : List (List Char) → List Char
  | [] => []
  | [part] => part
  | part :: parts => part ++ ',' :: commaSeparated parts

/-- A string with the given content. -/
def inQuotes (raw : List Char) : List Char :=
  '"' :: raw ++ ['"']

mutual

/-- The text of a value that lies `depth` levels deep. -/
def Value.render (style : Style) (depth : Nat) : Value → List Char
  | .null => ['n', 'u', 'l', 'l']
  | .boolean true => ['t', 'r', 'u', 'e']
  | .boolean false => ['f', 'a', 'l', 's', 'e']
  | .number n => n.render ['+']
  | .string raw => inQuotes raw
  | .array [] => ['[', ']']
  | .array items =>
    '[' :: commaSeparated (renderItems style (depth + 1) items) ++ style.lineBreak depth ++ [']']
  | .object [] => ['\x7b', '\x7d']
  | .object members =>
    '\x7b' :: commaSeparated (renderMembers style (depth + 1) members) ++
      style.lineBreak depth ++ ['\x7d']

/-- The texts of items, each after its line break. -/
def renderItems (style : Style) (depth : Nat) : List Value → List (List Char)
  | [] => []
  | v :: rest => (style.lineBreak depth ++ v.render style depth) :: renderItems style depth rest

/-- The texts of members, each after its line break. -/
def renderMembers (style : Style) (depth : Nat) : List (List Char × Value) → List (List Char)
  | [] => []
  | (name, v) :: rest =>
    (style.lineBreak depth ++ inQuotes name ++ ':' :: style.afterColon ++ v.render style depth) ::
      renderMembers style depth rest

end

/-- The text of a value in a style. -/
def Value.print (style : Style) (v : Value) : String :=
  String.ofList (v.render style 0)

end TelemetryCharts.Json
