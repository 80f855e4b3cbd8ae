import TelemetryCharts.Text.Utf8

/-!
# Fields of a table

Rows end at line ends and fields at commas. A field that begins with a quote goes on until a comma
or line end that is preceded by an even number of quotes; in other fields a quote is an ordinary
character.
-/

namespace TelemetryCharts.Table

/-- Decoded text, in which `none` stands for bytes that are no character. -/
abbrev Decoded := List (Option Char)

/-- A field as it stands in a row, with its quotes. -/
structure Field where
  chars : Decoded
  quoted : Bool

/-- What a field ends at. -/
inductive Stop
  | comma
  | lineEnd
  | textEnd
  deriving DecidableEq

/-- The characters up to the end of a field, what it ends at, and what follows. `inside` says
whether the number of quotes so far is odd; it stays `false` where quotes do not count. -/
def scanField (quoted inside : Bool) : Decoded → Decoded × Stop × Decoded
  | [] => ([], .textEnd, [])
  | c :: rest =>
    let inside := if quoted && c = some '"' then !inside else inside
    if !inside && c = some ',' then ([], .comma, rest)
    else if !inside && c = some '\n' then ([], .lineEnd, rest)
    else
      let (chars, stop, rest) := scanField quoted inside rest
      (c :: chars, stop, rest)

/-- The field at the start of a text. -/
def nextField (text : Decoded) : Field × Stop × Decoded :=
  let quoted := text.head? = some (some '"')
  let (chars, stop, rest) := scanField quoted false text
  (⟨chars, quoted⟩, stop, rest)

/-- A row of a table, and whether more fields would have followed. -/
structure Row where
  fields : List Field
  overfull : Bool

/-- The row at the start of a text, of one field and up to `more` fields after it, and what follows
the row. Where the text ends right after a comma no field follows. -/
def nextRow (more : Nat) (text : Decoded) : Row × Decoded :=
  let (field, stop, rest) := nextField text
  if stop = .comma && !rest.isEmpty then
    match more with
    | 0 => (⟨[field], true⟩, rest)
    | more + 1 =>
      let (row, rest) := nextRow more rest
      (⟨field :: row.fields, row.overfull⟩, rest)
  else (⟨[field], false⟩, rest)

theorem length_scanField (quoted inside : Bool) (text : Decoded) :
    (scanField quoted inside text).2.2.length ≤ text.length - 1 := by
  fun_induction scanField quoted inside text with
  | case1 | case2 | case3 => simp
  | case4 _ _ _ _ _ _ _ _ _ _ ih =>
    simp_all
    omega

theorem length_nextField (text : Decoded) : (nextField text).2.2.length ≤ text.length - 1 :=
  length_scanField ..

theorem length_nextRow (more : Nat) (text : Decoded) :
    (nextRow more text).2.length ≤ text.length - 1 := by
  fun_induction nextRow more text with
  | case1 text field stop rest h | case3 more text field stop rest h =>
    have := length_nextField text
    simp_all
  | case2 text field stop rest h more row rest' hRow ih =>
    have := length_nextField text
    simp_all
    omega

/-- The rows of a text, where a row has up to `more` fields after its first one. -/
def rows (more : Nat) (text : Decoded) : List Row :=
  match text with
  | [] => []
  | c :: cs =>
    have := length_nextRow more (c :: cs)
    (nextRow more (c :: cs)).1 :: rows more (nextRow more (c :: cs)).2
termination_by text.length
decreasing_by simp only [List.length_cons] at *; omega

/-- A line at the start of a text, without its line end, and what follows. A line end counts only
where the number of quotes before it in the line is even. -/
def nextLine (inside : Bool) : Decoded → Decoded × Decoded
  | [] => ([], [])
  | c :: rest =>
    if !inside && c = some '\n' then ([], rest)
    else
      let (line, rest) := nextLine (if c = some '"' then !inside else inside) rest
      (c :: line, rest)

/-- Up to `count` lines of a text. -/
def lines : Nat → Decoded → List Decoded
  | 0, _ => []
  | _, [] => []
  | count + 1, text => (nextLine false text).1 :: lines count (nextLine false text).2

/-- Text without the carriage return at its end. -/
def dropReturn (text : Decoded) : Decoded :=
  if text.getLast? = some (some '\r') then text.dropLast else text

/-- A line without the carriage return at its end, which is kept where it is the whole line. -/
def trimLine (line : Decoded) : Decoded :=
  if line.length = 1 then line else dropReturn line

/-- The fields of a line, as many as there are. -/
def lineFields (line : Decoded) : List Field :=
  if line = [] then [] else (nextRow line.length line).1.fields

/-- A field without the quotes around it, if it has any. Quotes inside stay as they are. -/
def Field.bare (f : Field) : Decoded :=
  if f.quoted && 2 ≤ f.chars.length then f.chars.tail.dropLast else f.chars

end TelemetryCharts.Table
