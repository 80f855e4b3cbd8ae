import TelemetryCharts.Json.Token
import TelemetryCharts.Toml.Scan

/-!
# Strings in TOML

Strings stand in quotes, where backslashes begin escapes, or in apostrophes, where they do not.
Strings in three quotes or apostrophes may go over several lines. They lose a line end at their
start, and every line end in them is a single character.
-/

namespace TelemetryCharts.Toml

/-- Takes hexadecimal digits, the code point of a character. -/
def codePoint (digits : Nat) : Scan Char := do
  let cs := (← get).take digits
  let ns ← (cs.mapM Json.hexDigit? : Option (List Nat))
  Scan.ensure (ns.length = digits)
  set ((← get).drop digits)
  let n := ns.foldl (fun n d => 16 * n + d) 0
  if n.isValidChar then return Char.ofNat n else failure

/-- Takes what follows the backslash of an escape. -/
def escaped : Scan Char := do
  match ← Scan.satisfying fun _ => true with
  | 'b' => return '\x08'
  | 't' => return '\t'
  | 'n' => return '\n'
  | 'f' => return '\x0c'
  | 'r' => return '\r'
  | '"' => return '"'
  | '\\' => return '\\'
  | 'u' => codePoint 4
  | 'U' => codePoint 8
  | _ => failure

/-- Takes a character of a string in quotes. -/
def quotedChar : Scan Char :=
  (Scan.satisfying fun c => isPlain c && c ≠ '"' && c ≠ '\\') <|> do
    Scan.exactly ['\\']
    escaped

/-- Takes a string in quotes. -/
def basicString : Scan (List Char) := do
  Scan.exactly ['"']
  let cs ← Scan.many quotedChar
  Scan.exactly ['"']
  return cs

/-- Takes a string in apostrophes. -/
def literalString : Scan (List Char) := do
  Scan.exactly ['\'']
  let cs ← Scan.takeWhile fun c => isPlain c && c ≠ '\''
  Scan.exactly ['\'']
  return cs

/-- Takes one or two of the quotes of a string of several lines, where no third one follows. -/
def innerQuotes (quote : Char) : Scan (List Char) := do
  let run := (← get).takeWhile (· = quote)
  if run.length = 1 ∨ run.length = 2 then
    set ((← get).drop run.length)
    return run
  else failure

/-- Takes a line end in a string of several lines. -/
def innerNewline : Scan (List Char) := do
  newline
  return ['\n']

/-- Takes a backslash at the end of a line, with the blanks and empty lines that follow. -/
def continuation : Scan (List Char) := do
  Scan.exactly ['\\']
  blanks
  newline
  let _ ← Scan.many ((do let _ ← Scan.takeSome isBlank) <|> newline)
  return []

/-- Takes the closing quotes of a string of several lines, with up to two more before them that
belong to the string. -/
def closing (quote : Char) : Scan (List Char) := do
  let run := (← get).takeWhile (· = quote)
  if 3 ≤ run.length then
    let extra := min (run.length - 3) 2
    set ((← get).drop (extra + 3))
    return run.take extra
  else failure

/-- Takes a string of several lines, given what takes one part of it. -/
def multiline (quote : Char) (part : Scan (List Char)) : Scan (List Char) := do
  Scan.exactly [quote, quote, quote]
  let _ ← Scan.maybe newline
  let parts ← Scan.many (part <|> innerNewline <|> innerQuotes quote)
  let last ← closing quote
  return parts.flatten ++ last

/-- Takes a string of several lines in quotes. -/
def basicMultiline : Scan (List Char) :=
  multiline '"' (continuation <|> (do return [← quotedChar]))

/-- Takes a string of several lines in apostrophes. -/
def literalMultiline : Scan (List Char) :=
  multiline '\'' (do return [← Scan.satisfying fun c => isPlain c && c ≠ '\''])

/-- Takes a string. -/
def string : Scan String :=
  String.ofList <$> (basicMultiline <|> basicString <|> literalMultiline <|> literalString)

/-- Says whether a character may stand in a key without quotes. -/
def isBareKeyChar (c : Char) : Bool :=
  c.isAlphanum || c = '-' || c = '_'

/-- Takes a key without dots. -/
def simpleKey : Scan String :=
  String.ofList <$> (basicString <|> literalString <|> Scan.takeSome isBareKeyChar)

/-- How many parts a dotted key may have, and one more than how deep values may be nested. -/
def nestingLimit : Nat := 80

/-- Takes a key: names with dots between them, and blanks around each. -/
def key : Scan (List String) := do
  let name : Scan String := do
    blanks
    let name ← simpleKey
    blanks
    return name
  let first ← name
  let rest ← Scan.many (do
    Scan.exactly ['.']
    name)
  Scan.ensure (rest.length + 1 < nestingLimit)
  return first :: rest

end TelemetryCharts.Toml
