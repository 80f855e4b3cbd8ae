import TelemetryCharts.FileSystem
import TelemetryCharts.Text.Quoted

/-!
# Failures

What goes wrong has a cause, and each stage that it passes through on its way out adds what that
stage was doing. A sum of counters that is no counter any more is no failure in this sense: it ends
the whole session, and no stage adds to it.
-/

namespace TelemetryCharts

/-- What can be wrong with a table. -/
inductive TableError
  | empty
  | malformed
  | missingColumn
  | wrongType
  | notText
  deriving DecidableEq, Repr

/-- Why a chart could not be made. -/
inductive Cause
  | tableNotFound (path : Path)
  | missingColumns (path : Path) (names : List String)
  | table (e : TableError)
  | nullValue (column : String)
  | windowOfZero
  | lengthMismatch (get put delete : Nat)
  | unsupportedFormat (path : Path) (extension : Option String)
  | configuration
  | drawing
  | file (e : FileError)
  | noCharts
  deriving DecidableEq

/-- A cause with what the stages around it were doing, the outermost first. -/
structure Failure where
  context : List String
  cause : Cause
  deriving DecidableEq

/-- Why there is no result. -/
inductive Stop
  | failure (f : Failure)
  | overflow
  deriving DecidableEq

/-- A result, or why there is none. -/
abbrev Outcome := Except Stop

/-- Says whether there is a result. -/
def Outcome.isOk {α : Type} : Outcome α → Bool
  | .ok _ => true
  | .error _ => false

/-- Says whether a sum of counters has overflowed. -/
def Outcome.isOverflow {α : Type} : Outcome α → Bool
  | .error .overflow => true
  | _ => false

/-- The failure with a cause and no context yet. -/
def Stop.ofCause (cause : Cause) : Stop :=
  .failure ⟨[], cause⟩

/-- The same with what the stage around it was doing. -/
def Stop.within (context : String) : Stop → Stop
  | .failure f => .failure { f with context := context :: f.context }
  | .overflow => .overflow

/-- Ends with a cause. -/
def fail {α : Type} (cause : Cause) : Outcome α :=
  .error (.ofCause cause)

/-- Adds what the stage around an outcome was doing. -/
def Outcome.within {α : Type} (context : String) (o : Outcome α) : Outcome α :=
  o.mapError (.within context)

/-- The sum of counters, or the end of the session. -/
def orOverflow {α : Type} : Option α → Outcome α
  | some x => .ok x
  | none => .error .overflow

/-- What is said about a file that cannot be used. -/
def FileError.message : FileError → String
  | .notFound => "No such file or directory (os error 2)"
  | .notADirectory => "Not a directory (os error 20)"
  | .isADirectory => "Is a directory (os error 21)"
  | .alreadyExists => "File exists (os error 17)"
  | .nameTooLong => "File name too long (os error 36)"
  | .invalidName => "file name contained an unexpected NUL byte"
  | .invalidText => "stream did not contain valid UTF-8"

/-- What is said about a table. -/
def TableError.message : TableError → String
  | .empty => "the table is empty"
  | .malformed => "the table is malformed"
  | .missingColumn => "a column is missing"
  | .wrongType => "a column has the wrong type"
  | .notText => "a column of numbers cannot be compared with text"

/-- What is said about a cause. -/
def Cause.message : Cause → String
  | .tableNotFound path => s!"Telemetry table not found: {Text.quoted path.text}"
  | .missingColumns path names =>
    s!"Telemetry table {Text.quoted path.text} is missing required columns: {Text.quotedList names}"
  | .table e => e.message
  | .nullValue column => s!"Null value in column {column}"
  | .windowOfZero => "Moving average window must be at least 1"
  | .lengthMismatch get put delete =>
    s!"Failure counters differ in length: get={get}, put={put}, delete={delete}"
  | .unsupportedFormat path extension =>
    s!"Unsupported chart format {Text.quotedOption extension} for {Text.quoted path.text}, " ++
      "expected svg or png"
  | .configuration => "the configuration is malformed"
  | .drawing => "Failed to draw chart"
  | .file e => e.message
  | .noCharts => "No charts configured"

/-- The first line of what is said about a failure: what its outermost stage was doing, or the
cause. -/
def Failure.headline (f : Failure) : String :=
  f.context.head?.getD f.cause.message

end TelemetryCharts
