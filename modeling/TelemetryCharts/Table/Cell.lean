import TelemetryCharts.Table.Column
import TelemetryCharts.Table.Kind
import TelemetryCharts.Word

/-!
# Reading cells

A field is read as a cell of the type of its column. An empty field is a missing cell, and so is a
field of blanks in a column of numbers. A field that does not fit makes the table malformed.
-/

namespace TelemetryCharts.Table

/-- Text between quotes, in which two quotes stand for one. A quote that stands alone is dropped. -/
def undoubleQuotes : Decoded → Decoded
  | some '"' :: c :: rest => c :: undoubleQuotes rest
  | [some '"'] => []
  | c :: rest => c :: undoubleQuotes rest
  | [] => []

/-- The text in a field. A field that begins with a quote has to end with another one. -/
def textCell? (f : Field) : Option (Option String) :=
  if f.chars = [] then some none
  else if f.quoted then
    if 1 < f.chars.length ∧ f.chars.getLast? = some (some '"') then
      (Text.gapless? (undoubleQuotes f.chars.tail.dropLast)).map (some <| String.ofList ·)
    else none
  else (Text.gapless? f.chars).map (some <| String.ofList ·)

/-- Says whether a character may stand before a number. -/
def isSpace (c : Option Char) : Bool :=
  c = some ' ' || c = some '\t'

/-- What `read?` makes of text without gaps. -/
def readDecoded {α : Type} (read? : List Char → Option α) (text : Decoded) : Option α :=
  (Text.gapless? text).bind read?

/-- The number in a field, read as it is, or else without the blanks before it. -/
def numberCell? {α : Type} (read? : List Char → Option α) (f : Field) : Option (Option α) :=
  if f.chars = [] then some none
  else if f.quoted && f.chars.length = 1 then none
  else
    match readDecoded read? f.bare with
    | some x => some (some x)
    | none =>
      match f.bare.dropWhile isSpace with
      | [] => some none
      | rest => (readDecoded read? rest).map some

/-- The integer in a text, if it is a signed machine word. -/
def readInteger? (cs : List Char) : Option Int64 :=
  (Decimal.integer? cs).bind wordOfInt?

/-- The truth value in a text. Case is ignored. -/
def readBoolean? (cs : List Char) : Option Bool :=
  if cs.map Char.toLower = "true".toList then some true
  else if cs.map Char.toLower = "false".toList then some false
  else none

/-- The truth value in a field. -/
def booleanCell? (f : Field) : Option (Option Bool) :=
  if f.chars = [] ∨ f.bare = [] then some none
  else (readDecoded readBoolean? f.bare).map some

/-- The column that fields make up, where `none` is a field that its row does not have. -/
def Kind.column? (k : Kind) (fields : List (Option Field)) : Option Column :=
  match k with
  | text => (read textCell?).map .text
  | integer => (read (numberCell? readInteger?)).map .integers
  | float => (read (numberCell? Decimal.float?)).map .floats
  | boolean => (read booleanCell?).map .booleans
where
  read {α : Type} (cell? : Field → Option (Option α)) : Option (List (Option α)) :=
    fields.mapM fun f => f.elim (some none) cell?

end TelemetryCharts.Table
