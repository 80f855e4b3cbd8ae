import TelemetryCharts.Failure
import TelemetryCharts.Table.Cell

/-!
# Reading tables

The first line of a table names its columns. The type of each column follows from its first hundred
cells, and then all of its cells are read as that type.
-/

namespace TelemetryCharts

/-- Named columns of equal length. -/
structure Frame where
  columns : List (String × Column)

namespace Table

/-- The first bytes of compressed files. -/
def compressionMarks : List (List UInt8) :=
  [[0x1f, 0x8b], [0x78, 0x01], [0x78, 0x9c], [0x78, 0xda], [0x28, 0xb5, 0x2f, 0xfd]]

/-- Says whether bytes are a compressed file. Fewer than four bytes never are. -/
def isCompressed (bytes : List UInt8) : Bool :=
  4 ≤ bytes.length && compressionMarks.any fun mark => mark.isPrefixOf bytes

/-- Text without a byte order mark at its start and without the empty lines that follow. -/
def skipStart (text : Decoded) : Decoded :=
  let text := if text.head? = some (some '\ufeff') then text.tail else text
  text.dropWhile fun c => c = some '\r' || c = some '\n'

/-- Names with a number added to those that repeat an earlier one. -/
def distinguish (seen : List String) : List String → List String
  | [] => []
  | name :: names =>
    let earlier := seen.count name
    let distinct :=
      if earlier = 0 then name else s!"{name}_duplicated_{Decimal.text (earlier - 1)}"
    distinct :: distinguish (name :: seen) names

/-- The names of the columns in the first line. -/
def columnNames (header : Decoded) : List String :=
  let fields := lineFields (trimLine header)
  (distinguish [] (fields.map fun f => String.ofList (Text.fillGaps f.bare))).eraseDups

/-- How many lines decide on the types of columns. -/
def sampleSize : Nat := 100

/-- The kind of the cell in a field, if there is one. -/
def cellKind? (f : Field) : Option Kind :=
  if f.chars = [] then none
  else some (((Text.gapless? f.bare).map Kind.of).getD .text)

/-- The kind of the column at a position in sample lines. -/
def columnKind (sample : List (List Field)) (position : Nat) : Kind :=
  Kind.unify (sample.filterMap fun fields => fields[position]?.bind cellKind?)

/-- A field as a row means it, without the carriage return at its end. -/
def Field.trim (f : Field) : Field :=
  { f with chars := dropReturn f.chars }

/-- The columns with given names that a text holds. -/
def readColumns (names : List String) (text : Decoded) : Option (List (String × Column)) :=
  let sample := (lines sampleSize text).map fun line => lineFields (trimLine line)
  let body := rows (names.length - 1) text
  if body.any (·.overfull) then none
  else names.zipIdx.mapM fun (name, position) =>
    let fields := body.map fun row => row.fields[position]?.map Field.trim
    ((columnKind sample position).column? fields).map fun column => (name, column)

/-- The table that bytes hold. -/
def read (bytes : List UInt8) : Except TableError Frame :=
  if isCompressed bytes then .error .malformed
  else
    match skipStart (Text.decode bytes) with
    | [] => .error .empty
    | text =>
      let (header, body) := nextLine false text
      match readColumns (columnNames header) body with
      | some columns => .ok ⟨columns⟩
      | none => .error .malformed

end Table

end TelemetryCharts
