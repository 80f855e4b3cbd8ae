import TelemetryCharts.Table.Field
import TelemetryCharts.Text.DecimalDigit

/-!
# Kinds of cells

The type of a column is found from the kinds of its first cells. Kinds are told by the shape of a
cell alone: digits of any script count, although a number in digits that are not ASCII cannot be
read later.
-/

namespace TelemetryCharts.Table

open Text (isDecimalDigit)

/-- What a cell looks like, and what a column holds. -/
inductive Kind
  | boolean
  | float
  | integer
  | text
  deriving DecidableEq, Repr

/-- A letter with case ignored. The long `s` is the one letter outside of ASCII that has a letter of
the words for truth values as its other case. -/
def foldCase (c : Char) : Char :=
  if c = '\u017f' then 's' else c.toLower

/-- Says whether a cell is a word for a truth value. -/
def isBoolean (cs : List Char) : Bool :=
  cs.map foldCase ∈ ["true".toList, "false".toList]

/-- Says whether a cell is digits and nothing else. -/
def isDigits (cs : List Char) : Bool :=
  !cs.isEmpty && cs.all isDecimalDigit

/-- Says whether a cell looks like an integer. A plus sign is not expected. -/
def isInteger : List Char → Bool
  | '-' :: cs => isDigits cs
  | cs => isDigits cs

/-- A text without the sign that it may start with. -/
def dropSign : List Char → List Char
  | '-' :: cs => cs
  | '+' :: cs => cs
  | cs => cs

/-- Says whether a text is an exponent. -/
def isExponent : List Char → Bool
  | c :: cs => (c = 'e' || c = 'E') && isDigits (dropSign cs)
  | [] => false

/-- Says whether a cell looks like a number with a point or an exponent, or like the name of a
number that has no digits. -/
def isFloat (cell : List Char) : Bool :=
  let cs := dropSign cell
  let whole := cs.takeWhile isDecimalDigit
  cs ∈ ["inf".toList, "NaN".toList] ||
    match cs.dropWhile isDecimalDigit with
    | '.' :: rest =>
      let after := rest.dropWhile isDecimalDigit
      if rest.takeWhile isDecimalDigit = [] then !whole.isEmpty && after.isEmpty
      else after.isEmpty || isExponent after
    | rest => !whole.isEmpty && isExponent rest

/-- Says whether a cell that has lost its quotes is still between quotes. -/
def isInQuotes (cs : List Char) : Bool :=
  2 ≤ cs.length && cs.head? = some '"' && cs.getLast? = some '"'

/-- The kind of a cell. -/
def Kind.of (cell : List Char) : Kind :=
  if isInQuotes cell then text
  else if isBoolean cell then boolean
  else if isFloat cell then float
  else if isInteger cell then integer
  else text

/-- The kind of a column from the kinds of its cells. Integers may stand among other numbers; any
other mixture is text, and so is a column without cells. -/
def Kind.unify (kinds : List Kind) : Kind :=
  if kinds = [] then text
  else if kinds.all (· = boolean) then boolean
  else if kinds.all (· = integer) then integer
  else if kinds.all fun k => k = integer || k = float then float
  else text

end TelemetryCharts.Table
