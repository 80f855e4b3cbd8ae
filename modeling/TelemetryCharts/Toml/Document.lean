import TelemetryCharts.Toml.Draft
import TelemetryCharts.Toml.Number
import TelemetryCharts.Toml.Text

/-!
# TOML documents

A document begins with the values of its own table. Each header after that opens a table, or one
more table of an array, with the values that follow it.
-/

namespace TelemetryCharts.Toml

/-- Takes a word that stands for a truth value. -/
def boolean : Scan Value :=
  (do Scan.exactly "true".toList; return .boolean true) <|>
    (do Scan.exactly "false".toList; return .boolean false)

/-- Takes what follows the opening bracket of an array, up to `limit` items. A comma may follow the
last one. -/
def arrayRest (value : Scan Value) : Nat → Scan (List Value)
  | 0 => failure
  | limit + 1 => do
    trivia
    if (← Scan.peek?) = some ']' then
      Scan.exactly [']']
      return []
    let v ← value
    trivia
    if (← Scan.peek?) = some ',' then
      Scan.exactly [',']
      return v :: (← arrayRest value limit)
    Scan.exactly [']']
    return [v]

/-- Takes an array. -/
def array (value : Scan Value) : Scan Value := do
  Scan.exactly ['[']
  return .array (← arrayRest value (← get).length)

/-- Takes a key and its value. -/
def keyValue (value : Scan Value) : Scan (List String × Value) := do
  let k ← key
  Scan.exactly ['=']
  blanks
  return (k, ← value)

/-- Takes a table in braces, which stands on one line. No comma may follow its last value. -/
def inlineTable (value : Scan Value) : Scan Value := do
  Scan.exactly ['\x7b']
  let pair : Scan (List String × Value) := do
    let kv ← keyValue value
    blanks
    return kv
  let pairs ← (do
    let first ← pair
    let rest ← Scan.many (do
      Scan.exactly [',']
      pair)
    return first :: rest) <|> (do blanks; return [])
  Scan.exactly ['\x7d']
  let t ← (DraftTable.empty.insertAll pairs : Option DraftTable)
  return t.draft.finish

/-- Takes a value with up to `levels` arrays and tables in braces inside of each other. -/
def value : Nat → Scan Value
  | 0 => (.string <$> string) <|> boolean <|> number
  | levels + 1 =>
    (.string <$> string) <|> boolean <|> number <|> array (value levels) <|>
      inlineTable (value levels)

/-- Takes a value of a document. -/
def documentValue : Scan Value :=
  value (nestingLimit - 1)

/-- A header and the values that follow it. -/
structure Section where
  path : List String
  isArrayItem : Bool
  pairs : List (List String × Value)

/-- Takes blanks, and lines without values. -/
def emptyLines : Scan Unit := do
  blanks
  let _ ← Scan.many (do
    newline <|> (do comment; newline)
    blanks)
  let _ ← Scan.maybe (do
    comment
    Scan.ensure (← get).isEmpty)

/-- Takes the values that follow each other on lines of their own. -/
def pairs : Scan (List (List String × Value)) := do
  emptyLines
  Scan.many (do
    let kv ← keyValue documentValue
    restOfLine
    emptyLines
    return kv)

/-- Takes a header. -/
def header : Scan (List String × Bool) := do
  let h ← (do
    Scan.exactly ['[', '[']
    let k ← key
    Scan.exactly [']', ']']
    return (k, true)) <|> (do
    Scan.exactly ['[']
    let k ← key
    Scan.exactly [']']
    return (k, false))
  restOfLine
  return h

/-- Takes a header and the values that follow it. -/
def headed : Scan Section := do
  let (path, isArrayItem) ← header
  return ⟨path, isArrayItem, ← pairs⟩

/-- Takes a document after the byte order mark that it may start with. -/
def document : Scan (List (List String × Value) × List Section) := do
  let _ ← Scan.maybe (Scan.exactly ['\ufeff'])
  let top ← pairs
  return (top, ← Scan.many headed)

/-- Adds the table of a section to the table of the document. -/
def DraftTable.addSection (t : DraftTable) (s : Section) : Option DraftTable :=
  let key := s.path.getLastD ""
  modifyAt false (if s.isArrayItem then append key s.pairs else define key s.pairs)
    s.path.dropLast t

/-- The table that a text says, or `none` if the text is no document. -/
def parse (text : List Char) : Option Table := do
  let (top, sections) ← document.run? text
  let t ← DraftTable.empty.insertAll top
  let t ← sections.foldlM DraftTable.addSection t
  return finishEntries t.entries

end TelemetryCharts.Toml
