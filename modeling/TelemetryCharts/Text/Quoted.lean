import TelemetryCharts.Text.Visible

/-!
# Quoted text

Messages show paths and labels between double quotes, with everything that a reader could not see
or could mistake written as an escape.
-/

namespace TelemetryCharts.Text

/-- A character as it stands between the quotes. Quotes, backslashes and the common control
characters have short escapes. Any other hidden character is given by its code point in lowercase
hexadecimal, so that two different texts never look the same. -/
def quotedChar (c : Char) : List Char :=
  match c with
  | '"' => ['\\', '"']
  | '\\' => ['\\', '\\']
  | '\n' => ['\\', 'n']
  | '\r' => ['\\', 'r']
  | '\t' => ['\\', 't']
  | '\x00' => ['\\', '0']
  | c => if isVisible c then [c] else ['\\', 'u', '\x7b'] ++ Nat.toDigits 16 c.toNat ++ ['\x7d']

/-- Text between double quotes, with escapes for what could not be told apart otherwise. -/
def quoted (text : String) : String :=
  String.ofList (['"'] ++ text.toList.flatMap quotedChar ++ ['"'])

/-- Texts in a list, each quoted. -/
def quotedList (texts : List String) : String :=
  "[" ++ String.intercalate ", " (texts.map quoted) ++ "]"

/-- A text that may be absent, quoted where it is present. -/
def quotedOption : Option String → String
  | none => "None"
  | some text => "Some(" ++ quoted text ++ ")"

end TelemetryCharts.Text
