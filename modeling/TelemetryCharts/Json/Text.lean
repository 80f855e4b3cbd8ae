import TelemetryCharts.Json.Token

/-!
# Text in strings

How text is written between the quotes of a string, and what text the content of a string stands
for. Code points above `ffff` may be written as a pair of surrogates; half of a pair stands for
nothing.
-/

namespace TelemetryCharts.Json

/-- The code unit that four hexadecimal digits stand for. -/
def codeUnit? (a b c d : Char) : Option Nat := do
  let a ← hexDigit? a
  let b ← hexDigit? b
  let c ← hexDigit? c
  let d ← hexDigit? d
  return 4096 * a + 256 * b + 16 * c + d

/-- Says whether a code unit is the first half of a surrogate pair. -/
def isHighSurrogate (unit : Nat) : Bool :=
  0xd800 ≤ unit && unit < 0xdc00

/-- Says whether a code unit is the second half of a surrogate pair. -/
def isLowSurrogate (unit : Nat) : Bool :=
  0xdc00 ≤ unit && unit < 0xe000

/-- The character that a surrogate pair stands for. -/
def combine (high low : Nat) : Char :=
  Char.ofNat (0x10000 + 0x400 * (high - 0xd800) + (low - 0xdc00))

/-- The character after a backslash, for the escapes of one character. -/
def shortEscape? : Char → Option Char
  | '"' => some '"'
  | '\\' => some '\\'
  | '/' => some '/'
  | 'b' => some '\x08'
  | 'f' => some '\x0c'
  | 'n' => some '\n'
  | 'r' => some '\r'
  | 't' => some '\t'
  | _ => none

/-- The text that the content of a string stands for. `high` is the first half of a surrogate pair
whose second half has to come next. -/
def unescapeFrom (high : Option Nat) : List Char → Option (List Char)
  | [] => if high.isNone then some [] else none
  | '\\' :: 'u' :: a :: b :: c :: d :: rest => do
    let unit ← codeUnit? a b c d
    match high with
    | some h =>
      if isLowSurrogate unit then (unescapeFrom none rest).map (combine h unit :: ·) else none
    | none =>
      if isHighSurrogate unit then unescapeFrom (some unit) rest
      else if isLowSurrogate unit then none
      else (unescapeFrom none rest).map (Char.ofNat unit :: ·)
  | ['\\'] => none
  | '\\' :: c :: rest => do
    let c ← shortEscape? c
    if high.isNone then (unescapeFrom none rest).map (c :: ·) else none
  | c :: rest => if high.isNone then (unescapeFrom none rest).map (c :: ·) else none

/-- The text that the content of a string stands for. -/
def unescape (raw : List Char) : Option (List Char) :=
  unescapeFrom none raw

/-- A lowercase hexadecimal digit. -/
def hexChar (n : Nat) : Char :=
  if n < 10 then Char.ofNat ('0'.toNat + n) else Char.ofNat ('a'.toNat + (n - 10))

/-- A character as it stands in a string. Only quotes, backslashes and control characters have to
be escaped. -/
def escapeChar (c : Char) : List Char :=
  match c with
  | '"' => ['\\', '"']
  | '\\' => ['\\', '\\']
  | '\x08' => ['\\', 'b']
  | '\x0c' => ['\\', 'f']
  | '\n' => ['\\', 'n']
  | '\r' => ['\\', 'r']
  | '\t' => ['\\', 't']
  | c =>
    if c < ' ' then ['\\', 'u', '0', '0', hexChar (c.toNat / 16), hexChar (c.toNat % 16)] else [c]

/-- The content of the string for a text. -/
def escape (text : List Char) : List Char :=
  text.flatMap escapeChar

end TelemetryCharts.Json
