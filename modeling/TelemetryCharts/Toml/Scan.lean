import TelemetryCharts.Decimal.Digits

/-!
# Scanning TOML text

A scan takes characters off a text and answers with what they say, or fails. The small scans here
know blanks, line ends and comments.
-/

namespace TelemetryCharts.Toml

/-- A scan of the text that is left. -/
abbrev Scan := StateT (List Char) Option

namespace Scan

/-- The next character, which stays where it is. -/
def peek? : Scan (Option Char) := do
  return (← get).head?

/-- Takes the next character, which has to satisfy `p`. -/
def satisfying (p : Char → Bool) : Scan Char := do
  match ← get with
  | c :: rest => if p c then set rest; return c else failure
  | [] => failure

/-- Takes the given characters. -/
def exactly : List Char → Scan Unit
  | [] => pure ()
  | c :: cs => do
    let _ ← satisfying (· = c)
    exactly cs

/-- Takes characters for as long as they satisfy `p`. -/
def takeWhile (p : Char → Bool) : Scan (List Char) := do
  let cs ← get
  set (cs.dropWhile p)
  return cs.takeWhile p

/-- Takes characters for as long as they satisfy `p`, and at least one. -/
def takeSome (p : Char → Bool) : Scan (List Char) := do
  let cs ← takeWhile p
  if cs = [] then failure else return cs

/-- Takes what `scan` takes, or nothing where it fails. -/
def maybe {α : Type} (scan : Scan α) : Scan (Option α) :=
  (some <$> scan) <|> pure none

/-- Repeats a scan up to `limit` times, for as long as it succeeds. -/
def repeatUpTo {α : Type} (scan : Scan α) : Nat → Scan (List α)
  | 0 => pure []
  | limit + 1 => do
    match ← maybe scan with
    | some x => return x :: (← repeatUpTo scan limit)
    | none => pure []

/-- Repeats a scan that takes something each time, for as long as it succeeds. -/
def many {α : Type} (scan : Scan α) : Scan (List α) := do
  repeatUpTo scan (← get).length

/-- Fails unless a condition holds. -/
def ensure (condition : Bool) : Scan Unit :=
  if condition then pure () else failure

/-- What a scan says about a whole text. -/
def run? {α : Type} (scan : Scan α) (text : List Char) : Option α :=
  match scan.run text with
  | some (x, []) => some x
  | _ => none

end Scan

/-- Says whether a character is a blank within a line. -/
def isBlank (c : Char) : Bool :=
  c = ' ' || c = '\t'

/-- Says whether a character may stand in a comment or in a string. Control characters may not,
apart from the tab. -/
def isPlain (c : Char) : Bool :=
  c = '\t' || (' ' ≤ c && c ≠ '\x7f')

/-- Takes blanks. -/
def blanks : Scan Unit := do
  let _ ← Scan.takeWhile isBlank

/-- Takes a line end. -/
def newline : Scan Unit :=
  Scan.exactly ['\n'] <|> Scan.exactly ['\r', '\n']

/-- Takes a comment without the line end after it. -/
def comment : Scan Unit := do
  Scan.exactly ['#']
  let _ ← Scan.takeWhile isPlain

/-- Takes the end of a line, which may be the end of the text. -/
def lineEnd : Scan Unit := do
  if (← get) = [] then pure () else newline

/-- Takes what may follow on a line after its content. -/
def restOfLine : Scan Unit := do
  blanks
  let _ ← Scan.maybe comment
  lineEnd

/-- Takes blanks, line ends and comments. -/
def trivia : Scan Unit := do
  let _ ← Scan.many ((do let _ ← Scan.takeSome isBlank) <|> newline <|> comment)

end TelemetryCharts.Toml
