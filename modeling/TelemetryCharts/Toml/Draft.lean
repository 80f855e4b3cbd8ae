import TelemetryCharts.Toml.Value

/-!
# Tables under construction

While a document is read, a table remembers how it came about. A table that has only been mentioned
on the way to another one may still be defined, one that was made by dotted keys may only grow by
dotted keys, and a value never grows.
-/

namespace TelemetryCharts.Toml

/-- What a key holds while the document is being read. -/
inductive Draft
  | value (v : Value)
  | table (implicit dotted : Bool) (entries : List (String × Draft))
  | tables (items : List (List (String × Draft)))

/-- A table that is being read: whether it has only been mentioned, whether dotted keys made it, and
its entries. -/
structure DraftTable where
  implicit : Bool
  dotted : Bool
  entries : List (String × Draft)

namespace DraftTable

/-- A table that has just been defined. -/
def empty : DraftTable := ⟨false, false, []⟩

/-- The table as what a key holds. -/
def draft (t : DraftTable) : Draft :=
  .table t.implicit t.dotted t.entries

/-- The table with a key holding something else. A new key comes last. -/
def set (key : String) (d : Draft) (t : DraftTable) : DraftTable :=
  if (t.entries.lookup key).isSome then
    { t with entries := t.entries.map fun (k, old) => if k = key then (k, d) else (k, old) }
  else { t with entries := t.entries ++ [(key, d)] }

/-- Changes the table that a path leads to. Tables that are missing on the way are only mentioned by
it. Of an array of tables the last one is meant. A table that has been defined cannot be reached by
dotted keys. -/
def modifyAt (dotted : Bool) (change : DraftTable → Option DraftTable) :
    List String → DraftTable → Option DraftTable
  | [], t => change t
  | key :: path, t =>
    match t.entries.lookup key with
    | none => do
      let child ← modifyAt dotted change path ⟨true, dotted, []⟩
      return t.set key child.draft
    | some (.value _) => none
    | some (.tables items) =>
      match items.getLast? with
      | none => none
      | some last => do
        let child ← modifyAt dotted change path ⟨false, false, last⟩
        return t.set key (.tables (items.dropLast ++ [child.entries]))
    | some (.table implicit childDotted entries) =>
      if dotted && !implicit then none
      else do
        let child ← modifyAt dotted change path ⟨implicit, childDotted, entries⟩
        return t.set key child.draft

/-- Adds a value under a key that must be new. A table made by dotted keys takes values only by
dotted keys, and another table only without. -/
def addValue (path : List String) (key : String) (v : Value) (t : DraftTable) :
    Option DraftTable :=
  if t.dotted = path.isEmpty ∨ (t.entries.lookup key).isSome then none
  else some (t.set key (.value v))

/-- Adds a value under a dotted key. -/
def insert (t : DraftTable) (key : List String × Value) : Option DraftTable :=
  let path := key.1.dropLast
  modifyAt true (addValue path (key.1.getLastD "") key.2) path t

/-- Adds values under dotted keys. -/
def insertAll (t : DraftTable) (pairs : List (List String × Value)) : Option DraftTable :=
  pairs.foldlM insert t

/-- Defines a table with the given values. It may have been mentioned before but not defined. -/
def define (key : String) (pairs : List (List String × Value)) (parent : DraftTable) :
    Option DraftTable := do
  let mentioned ← match parent.entries.lookup key with
    | none => some []
    | some (.table true false entries) => some entries
    | some _ => none
  let t ← insertAll ⟨false, false, mentioned⟩ pairs
  return parent.set key t.draft

/-- Adds a table with the given values to an array of tables. -/
def append (key : String) (pairs : List (List String × Value)) (parent : DraftTable) :
    Option DraftTable := do
  let items ← match parent.entries.lookup key with
    | none => some []
    | some (.tables items) => some items
    | some _ => none
  let t ← insertAll empty pairs
  return parent.set key (.tables (items ++ [t.entries]))

end DraftTable

mutual

/-- The value of what a key holds in the end. -/
def Draft.finish : Draft → Value
  | .value v => v
  | .table _ _ entries => .table (finishEntries entries)
  | .tables items => .array (finishItems items)

/-- The entries of a table in the end. -/
def finishEntries : List (String × Draft) → Table
  | [] => []
  | (key, d) :: rest => (key, d.finish) :: finishEntries rest

/-- The tables of an array in the end. -/
def finishItems : List (List (String × Draft)) → List Value
  | [] => []
  | entries :: rest => .table (finishEntries entries) :: finishItems rest

end

end TelemetryCharts.Toml
