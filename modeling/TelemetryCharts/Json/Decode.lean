import TelemetryCharts.Json.Number

/-!
# Typed reading of JSON values

A record may be given as an object with its fields by name or as an array of all of them in order.
Members with other names are passed over, whatever they hold.
-/

namespace TelemetryCharts.Json

/-- The value as a double. -/
def Value.double? : Value → Option Float
  | .number n => Json.double? n
  | _ => none

/-- The value as a natural number that is a machine word. -/
def Value.word? : Value → Option Nat
  | .number n => Json.word? n
  | _ => none

/-- The value as a counter. -/
def Value.counter? (v : Value) : Option UInt64 :=
  v.word?.map UInt64.ofNat

/-- The value as a signed machine word. -/
def Value.signedWord? : Value → Option Int64
  | .number n => (Json.integer? n).bind wordOfInt?
  | _ => none

/-- The value as text. -/
def Value.text? : Value → Option (List Char)
  | .string raw => unescape raw
  | _ => none

/-- The value as a list whose items all satisfy `item?`. -/
def Value.list? {α : Type} (item? : Value → Option α) : Value → Option (List α)
  | .array items => items.mapM item?
  | _ => none

/-- The members of an object with their names unescaped. -/
def Value.members? : Value → Option (List (List Char × Value))
  | .object members => members.mapM fun (name, v) => (unescape name).map (·, v)
  | _ => none

/-- The one member with a name. -/
def theMember? (members : List (List Char × Value)) (name : List Char) : Option Value :=
  match members.filter (·.1 = name) with
  | [(_, v)] => some v
  | _ => none

/-- The fields of a record in the order of `names`. In an object each name must occur exactly once,
and an array must hold exactly the fields. -/
def Value.fields? (names : List String) : Value → Option (List Value)
  | .array items => if items.length = names.length then some items else none
  | v => do
    let members ← v.members?
    names.mapM fun name => theMember? members name.toList

end TelemetryCharts.Json
