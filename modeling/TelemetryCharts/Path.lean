/-!
# Paths

A path is the text by which a file is named. Nothing is normalised: a path keeps its repeated
separators and its dots, and the operations read it segment by segment.
-/

namespace TelemetryCharts

/-- A path as it is written. -/
structure Path where
  chars : List Char
  deriving DecidableEq, Repr

namespace Path

/-- The path that a text names. -/
def ofText (text : String) : Path :=
  ⟨text.toList⟩

/-- The text of a path. -/
def text (p : Path) : String :=
  String.ofList p.chars

/-- What stands between the separators. There is always at least one segment. -/
def split : List Char → List (List Char)
  | [] => [[]]
  | c :: cs =>
    if c = '/' then [] :: split cs
    else match split cs with
      | [] => [[c]]
      | s :: rest => (c :: s) :: rest

/-- Segments with separators between them. -/
def unsplit : List (List Char) → List Char
  | [] => []
  | [s] => s
  | s :: rest => s ++ '/' :: unsplit rest

/-- The segments of a path. -/
def segments (p : Path) : List (List Char) :=
  split p.chars

/-- Says whether a path starts at the root rather than at the working directory. -/
def isAbsolute (p : Path) : Bool :=
  p.chars.head? = some '/'

/-- Says whether a segment leads nowhere: it is empty or a single dot. -/
def isIdle (segment : List Char) : Bool :=
  segment = [] || segment = ['.']

/-- Segments without the idle ones at the end. -/
def dropIdle (segments : List (List Char)) : List (List Char) :=
  (segments.reverse.dropWhile isIdle).reverse

/-- The last name of a path, which is `none` for a root, an empty path, and a path that ends in
`..` or is a single dot. -/
def fileName? (p : Path) : Option (List Char) :=
  match p.segments with
  | [] => none
  | first :: rest =>
    let last := (dropIdle rest).getLast?.getD first
    if isIdle last || last = ['.', '.'] then none else some last

/-- A name cut at its last dot, unless that is its first character. Without such a dot there is no
extension. -/
def cutName (name : List Char) : List Char × Option (List Char) :=
  let after := (name.reverse.takeWhile (· ≠ '.')).reverse
  let before := (name.reverse.dropWhile (· ≠ '.')).tail.reverse
  if before = [] then (name, none) else (before, some after)

/-- The last name of a path up to its extension. -/
def stem? (p : Path) : Option (List Char) :=
  p.fileName?.map fun name => (cutName name).1

/-- The extension of the last name of a path. -/
def extension? (p : Path) : Option (List Char) :=
  p.fileName?.bind fun name => (cutName name).2

/-- The path without its last name, or `none` for a root and for an empty path. Idle segments
before the last name go with it. -/
def parent? (p : Path) : Option Path :=
  match p.segments with
  | [] => none
  | first :: rest =>
    match dropIdle rest with
    | [] => if first = [] then none else some ⟨[]⟩
    | rest =>
      match first, dropIdle rest.dropLast with
      | [], [] => some ⟨['/']⟩
      | first, rest => some ⟨unsplit (first :: rest)⟩

/-- The path `p` taken as relative to `base`. An absolute path is kept. -/
def resolve (base p : Path) : Path :=
  if p.isAbsolute then p
  else if base.chars = [] || base.chars.getLast? = some '/' then ⟨base.chars ++ p.chars⟩
  else ⟨base.chars ++ '/' :: p.chars⟩

/-- A path and what its parents are, innermost first, up to `fuel` of them. -/
def lineageUpTo : Nat → Path → List Path
  | 0, _ => []
  | fuel + 1, p => p :: p.parent?.elim [] (lineageUpTo fuel)

/-- A path, its parent, the parent of that, and so on. Each is shorter than the one before. -/
def lineage (p : Path) : List Path :=
  lineageUpTo (p.chars.length + 1) p

end Path

end TelemetryCharts
