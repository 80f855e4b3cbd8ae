import TelemetryCharts.Json.Text

/-!
# JSON values

A value is what a JSON text says, with the members of objects in the order of the text. Reading
goes through the tokens once and keeps the arrays and objects that are still open on a stack.
-/

namespace TelemetryCharts.Json

open Decimal

/-- What a JSON text says. The content of strings and the names of members are kept as they are
written. -/
inductive Value
  | null
  | boolean (b : Bool)
  | number (n : Numeral)
  | string (raw : List Char)
  | array (items : List Value)
  | object (members : List (List Char × Value))

/-- An array or an object that is still open, with its contents so far, the last one first. -/
inductive Enclosing
  | array (items : List Value)
  | object (members : List (List Char × Value)) (name : List Char)

/-- What may come next in a text. -/
inductive Reading
  | value (stack : List Enclosing)
  | firstItem (stack : List Enclosing)
  | firstMember (stack : List Enclosing)
  | member (members : List (List Char × Value)) (stack : List Enclosing)
  | colon (members : List (List Char × Value)) (name : List Char) (stack : List Enclosing)
  | rest (last : Value) (stack : List Enclosing)

/-- What comes next after the beginning of a value. -/
def Reading.begin (stack : List Enclosing) : Token → Option Reading
  | .null => some (.rest .null stack)
  | .boolean b => some (.rest (.boolean b) stack)
  | .number n => some (.rest (.number n) stack)
  | .string raw => some (.rest (.string raw) stack)
  | .beginArray => some (.firstItem stack)
  | .beginObject => some (.firstMember stack)
  | _ => none

/-- What comes next after one more token. -/
def Reading.next : Reading → Token → Option Reading
  | .value stack, t => begin stack t
  | .firstItem stack, .endArray => some (.rest (.array []) stack)
  | .firstItem stack, t => begin (.array [] :: stack) t
  | .firstMember stack, .endObject => some (.rest (.object []) stack)
  | .firstMember stack, .string raw => some (.colon [] raw stack)
  | .member members stack, .string raw => some (.colon members raw stack)
  | .colon members name stack, .colon => some (.value (.object members name :: stack))
  | .rest last (.array items :: stack), .comma => some (.value (.array (last :: items) :: stack))
  | .rest last (.array items :: stack), .endArray =>
    some (.rest (.array (last :: items).reverse) stack)
  | .rest last (.object members name :: stack), .comma =>
    some (.member ((name, last) :: members) stack)
  | .rest last (.object members name :: stack), .endObject =>
    some (.rest (.object ((name, last) :: members).reverse) stack)
  | _, _ => none

/-- The value that has been read, if nothing is missing. -/
def Reading.finish : Reading → Option Value
  | .rest v [] => some v
  | _ => none

/-- The value that a text says, or `none` if the text is not JSON. -/
def Value.parse (cs : List Char) : Option Value := do
  let tokens ← scan cs
  let reading ← tokens.foldlM Reading.next (.value [])
  reading.finish

end TelemetryCharts.Json
