import TelemetryCharts.Chart.Configuration
import TelemetryCharts.Word

/-!
# The command line

A command line names a table to chart, with options for its chart, or a configuration that lists
charts. An argument that is waiting for its value or has just got it is settled only when the next
argument has been recognised, so an argument that is unknown is reported before what is wrong with
the one before it.
-/

namespace TelemetryCharts

/-- Why a command line is not accepted. Asking for help counts as a reason. -/
inductive UsageError
  | unknownArgument
  | unexpectedValue
  | missingValue
  | invalidValue
  | invalidNumber
  | conflict
  | missingInput
  | helpRequested
  deriving DecidableEq, Repr

/-- The arguments that have a value. -/
inductive Parameter
  | input
  | output
  | window
  | truncate
  | title
  | style
  | seriesOut
  | config
  deriving DecidableEq, Repr

/-- The arguments that have names: parameters, and flags that stand for themselves. -/
inductive Named
  | parameter (p : Parameter)
  | ignoreErrors
  | help
  deriving DecidableEq, Repr

/-- The argument with a long name. -/
def Named.ofLong? : String → Option Named
  | "output" => some (.parameter .output)
  | "window" => some (.parameter .window)
  | "truncate" => some (.parameter .truncate)
  | "title" => some (.parameter .title)
  | "style" => some (.parameter .style)
  | "series-out" => some (.parameter .seriesOut)
  | "config" => some (.parameter .config)
  | "ignore-errors" => some .ignoreErrors
  | "help" => some .help
  | _ => none

/-- The argument with a short name. -/
def Named.ofShort? : Char → Option Named
  | 'o' => some (.parameter .output)
  | 'w' => some (.parameter .window)
  | 'c' => some (.parameter .config)
  | 'h' => some .help
  | _ => none

/-- What a command line says. -/
structure CommandLine where
  input : Option Path := none
  output : Option Path := none
  window : Option Nat := none
  truncate : Option Nat := none
  title : Option String := none
  style : Option ChartStyle := none
  seriesOut : Option Path := none
  config : Option Path := none
  ignoreErrors : Bool := false
  deriving DecidableEq

namespace CommandLine

/-- The path that a value names. It must not be empty. -/
def readPath (value : List Char) : Except UsageError Path :=
  if value = [] then .error .invalidValue else .ok ⟨value⟩

/-- The number that a value names, which is a machine word. A plus sign may stand before it. -/
def readNumber (value : List Char) : Except UsageError Nat :=
  let ds := match value with
    | '+' :: ds => ds
    | ds => ds
  match Decimal.natural? ds with
  | some n => if n < wordLimit then .ok n else .error .invalidNumber
  | none => .error .invalidNumber

/-- The style that a value names. -/
def readStyle (value : List Char) : Except UsageError ChartStyle :=
  match Toml.Value.style? (String.ofList value) with
  | some style => .ok style
  | none => .error .invalidValue

/-- A parameter that has not been given yet, with its value. -/
def once {α : Type} (given : Option α) (value : Except UsageError α) :
    Except UsageError (Option α) :=
  if given.isSome then .error .conflict else value.map some

/-- Adds the value of a parameter. Each parameter can be given once. -/
def assign (cl : CommandLine) (p : Parameter) (value : List Char) :
    Except UsageError CommandLine := do
  match p with
  | .input => return { cl with input := ← once cl.input (readPath value) }
  | .output => return { cl with output := ← once cl.output (readPath value) }
  | .window => return { cl with window := ← once cl.window (readNumber value) }
  | .truncate => return { cl with truncate := ← once cl.truncate (readNumber value) }
  | .title => return { cl with title := ← once cl.title (.ok (String.ofList value)) }
  | .style => return { cl with style := ← once cl.style (readStyle value) }
  | .seriesOut => return { cl with seriesOut := ← once cl.seriesOut (readPath value) }
  | .config => return { cl with config := ← once cl.config (readPath value) }

/-- Adds a flag. -/
def raise (cl : CommandLine) : Named → Except UsageError CommandLine
  | .ignoreErrors =>
    if cl.ignoreErrors then .error .conflict else .ok { cl with ignoreErrors := true }
  | .help => .error .helpRequested
  | .parameter _ => .ok cl

/-- A command line that is being read: what it has said so far, the parameter that is not settled
yet with the value that it may have, whether the table has been named, and whether all that follows
are names of tables. -/
structure Reader where
  said : CommandLine := {}
  pending : Option (Parameter × Option (List Char)) := none
  inputSeen : Bool := false
  namesOnly : Bool := false

namespace Reader

/-- Settles the parameter that is pending. -/
def settle (r : Reader) : Except UsageError Reader := do
  match r.pending with
  | none => return r
  | some (_, none) => throw .missingValue
  | some (p, some value) => return { r with said := ← r.said.assign p value, pending := none }

/-- Reads an argument that is not an option: the value of the parameter before it, or else the name
of the table. -/
def readPlain (r : Reader) (value : List Char) : Except UsageError Reader := do
  match r.pending, r.namesOnly with
  | some (p, none), false => return { r with pending := some (p, some value) }
  | _, _ =>
    if r.inputSeen then throw .unknownArgument
    let r ← r.settle
    return { r with pending := some (.input, some value), inputSeen := true }

/-- Reads an argument by its name, with the value that is attached to it. -/
def readNamed (r : Reader) (name : Named) (value : Option (List Char)) :
    Except UsageError Reader := do
  match name, value with
  | .parameter p, some value =>
    let r ← r.settle
    return { r with said := ← r.said.assign p value }
  | .parameter p, none =>
    let r ← r.settle
    return { r with pending := some (p, none) }
  | _, some _ => throw .unexpectedValue
  | flag, none =>
    let r ← r.settle
    return { r with said := ← r.said.raise flag }

/-- Reads an argument that begins with two dashes. An equals sign attaches a value to it. -/
def readLong (r : Reader) (cs : List Char) : Except UsageError Reader :=
  let name := cs.takeWhile (· ≠ '=')
  let value := match cs.dropWhile (· ≠ '=') with
    | [] => none
    | _ :: value => some value
  match Named.ofLong? (String.ofList name) with
  | some name => r.readNamed name value
  | none => .error .unknownArgument

/-- Reads an argument that begins with one dash. What follows the name is its value, with or
without an equals sign. What follows a flag is never looked at, because the only flag is the one for
help. -/
def readShort (r : Reader) (c : Char) (cs : List Char) : Except UsageError Reader :=
  match Named.ofShort? c with
  | none => .error .unknownArgument
  | some (.parameter p) =>
    let value := match cs with
      | [] => none
      | '=' :: value => some value
      | value => some value
    r.readNamed (.parameter p) value
  | some flag => r.readNamed flag none

/-- Reads one argument. -/
def read (r : Reader) (argument : List Char) : Except UsageError Reader :=
  if r.namesOnly then r.readPlain argument
  else match argument with
    | ['-', '-'] => .ok { r with namesOnly := true }
    | '-' :: '-' :: cs => r.readLong cs
    | '-' :: c :: cs => r.readShort c cs
    | cs => r.readPlain cs

/-- What the command line has said in the end. It has to name a table or a configuration, and
cannot name both. -/
def finish (r : Reader) : Except UsageError CommandLine := do
  let r ← r.settle
  match r.said.input, r.said.config with
  | some _, some _ => throw .conflict
  | none, none => throw .missingInput
  | _, _ => return r.said

end Reader

/-- What the arguments of a command line say. -/
def parse (arguments : List String) : Except UsageError CommandLine := do
  let r ← arguments.foldlM (fun r argument => Reader.read r argument.toList) ({} : Reader)
  r.finish

/-- The chart of a table with the options that were given. The window and the style have defaults
here. -/
def chart (cl : CommandLine) (input : Path) : Chart :=
  let chart := Chart.new input
  { chart with
    output := cl.output
    window := cl.window.getD defaultWindow
    truncate := cl.truncate
    style := cl.style.getD .axes
    labels := { chart.labels with title := cl.title }
    seriesOut := cl.seriesOut }

/-- The charts that a command line asks for. -/
def charts (fs : FileSystem) (cl : CommandLine) : Outcome (List Chart) :=
  match cl.config, cl.input with
  | some path, _ => Configuration.load fs path
  | none, some input => .ok [cl.chart input]
  | none, none => .ok []

end CommandLine

end TelemetryCharts
