import TelemetryCharts.Path

/-!
# File systems

A file system holds directories and files at locations. Operations name files by paths, which are
followed from the working directory or from the root one segment at a time, so that a missing
directory and a file in place of a directory are told apart. An operation that fails may still have
created directories on its way, so each one answers with the file system that it leaves.
-/

namespace TelemetryCharts

-- Contents are compared as the core library compares them.
attribute [local instance (2000)] ByteArray.instDecidableEq

/-- What may stand at a location. -/
inductive Node
  | directory
  | file (content : ByteArray)
  deriving DecidableEq

/-- The names that lead from the root to a file or directory. -/
abbrev Location := List (List Char)

/-- Directories and files by location, with the location at which relative paths start. The root is
always a directory. -/
structure FileSystem where
  entries : List (Location × Node)
  workingDirectory : Location

/-- Why a file cannot be used. -/
inductive FileError
  | notFound
  | notADirectory
  | isADirectory
  | alreadyExists
  | nameTooLong
  | invalidName
  | invalidText
  deriving DecidableEq, Repr

/-- An action on files, which answers or fails and leaves a file system in both cases. -/
abbrev FileAction := ExceptT FileError (StateM FileSystem)

namespace FileSystem

/-- What stands at a location. -/
def node? (fs : FileSystem) (location : Location) : Option Node :=
  if location = [] then some .directory else fs.entries.lookup location

/-- The file system with a node at a location, in place of what stood there. -/
def put (fs : FileSystem) (location : Location) (node : Node) : FileSystem :=
  { fs with entries := (location, node) :: fs.entries.filter (·.1 ≠ location) }

/-- The file system without what stands at a location. -/
def erase (fs : FileSystem) (location : Location) : FileSystem :=
  { fs with entries := fs.entries.filter (·.1 ≠ location) }

/-- Where a path leads: to something that exists, or to a free name in a directory that exists.
A name that is followed by a separator can only stand for a directory. -/
inductive Destination
  | existing (location : Location) (node : Node) (forDirectory : Bool)
  | free (location : Location) (forDirectory : Bool)

/-- The longest name that a file can have, in bytes. -/
def nameLimit : Nat := 255

/-- Follows segments from a directory. -/
def follow (fs : FileSystem) (here : Location) : List (List Char) → Except FileError Destination
  | [] => .ok (.existing here .directory true)
  | name :: rest =>
    if Path.isIdle name then fs.follow here rest
    else if name = ['.', '.'] then fs.follow here.dropLast rest
    else if nameLimit < (String.ofList name).utf8ByteSize then .error .nameTooLong
    else
      let location := here ++ [name]
      match fs.node? location with
      | some .directory => fs.follow location rest
      | some (.file content) =>
        if rest.all (· = []) then .ok (.existing location (.file content) (rest ≠ []))
        else .error .notADirectory
      | none =>
        if rest.all (· = []) then .ok (.free location (rest ≠ [])) else .error .notFound

/-- Where a path leads. An empty path leads nowhere, and a path cannot hold a null character. -/
def find (fs : FileSystem) (path : Path) : Except FileError Destination :=
  if path.chars = [] then .error .notFound
  else if '\x00' ∈ path.chars then .error .invalidName
  else fs.follow (if path.isAbsolute then [] else fs.workingDirectory) path.segments

/-- Says whether a path leads to a file. -/
def isFile (fs : FileSystem) (path : Path) : Bool :=
  match fs.find path with
  | .ok (.existing _ (.file _) false) => true
  | _ => false

/-- Says whether a path leads to a directory. -/
def isDirectory (fs : FileSystem) (path : Path) : Bool :=
  match fs.find path with
  | .ok (.existing _ .directory _) => true
  | _ => false

/-- Says whether a path leads to a file or a directory. -/
def contains (fs : FileSystem) (path : Path) : Bool :=
  fs.isFile path || fs.isDirectory path

/-- The content of the file that a path leads to. -/
def read (fs : FileSystem) (path : Path) : Except FileError ByteArray :=
  match fs.find path with
  | .ok (.existing _ (.file content) false) => .ok content
  | .ok (.existing _ (.file _) true) => .error .notADirectory
  | .ok (.existing _ .directory _) => .error .isADirectory
  | .ok (.free ..) => .error .notFound
  | .error e => .error e

/-- Makes a file hold the given content, whether there was one or not. -/
def write (path : Path) (content : ByteArray) : FileAction Unit := do
  match (← get).find path with
  | .ok (.existing location (.file _) false) => modify (·.put location (.file content))
  | .ok (.free location false) => modify (·.put location (.file content))
  | .ok _ => throw .isADirectory
  | .error e => throw e

/-- Removes a file. -/
def remove (path : Path) : FileAction Unit := do
  match (← get).find path with
  | .ok (.existing location (.file _) false) => modify (·.erase location)
  | .ok (.existing _ (.file _) true) => throw .notADirectory
  | .ok (.existing _ .directory _) => throw .isADirectory
  | .ok (.free ..) => throw .notFound
  | .error e => throw e

/-- Creates a directory at a free name. -/
def createDirectory (path : Path) : FileAction Unit := do
  match (← get).find path with
  | .ok (.free location _) => modify (·.put location .directory)
  | .ok (.existing ..) => throw .alreadyExists
  | .error e => throw e

/-- Accepts the failure to create a directory that is already there. -/
def orPresent (path : Path) (e : FileError) : FileAction Unit := do
  if (← get).isDirectory path then pure () else throw e

/-- Creates the first of a path and its parents, after those of its parents that are missing. -/
def createLineage : List Path → FileAction Unit
  | [] => throw .notFound
  | path :: parents =>
    if path.chars = [] then pure ()
    else tryCatch (createDirectory path) fun e =>
      if e = .notFound then do
        createLineage parents
        tryCatch (createDirectory path) (orPresent path)
      else orPresent path e

/-- Creates a directory and those above it that are missing. -/
def createDirectories (path : Path) : FileAction Unit :=
  createLineage path.lineage

/-- Creates the directories above a path that are missing. -/
def createParents (path : Path) : FileAction Unit :=
  match path.parent? with
  | some parent => createDirectories parent
  | none => pure ()

/-- Says whether one text comes before another in the order of code points. -/
def precedes : List Char → List Char → Bool
  | _, [] => false
  | [], _ :: _ => true
  | a :: as, b :: bs => if a = b then precedes as bs else a.toNat < b.toNat

/-- The paths of everything below the working directory, in order, with a separator after those of
directories. -/
def listing (fs : FileSystem) : List (List Char) :=
  let below := fs.entries.filterMap fun (location, node) =>
    if fs.workingDirectory.isPrefixOf location && location ≠ fs.workingDirectory then
      some (Path.unsplit (location.drop fs.workingDirectory.length) ++
        (if node = .directory then ['/'] else []))
    else none
  below.mergeSort fun a b => !precedes b a

end FileSystem

end TelemetryCharts
