/-
# A tree of files

Files and directories by their places below the root. A place is reached when all that
leads to it are directories.

Key definitions: `Cli.Files`, `Cli.Files.read`, `Cli.Files.write`, `Cli.Files.save`.
-/
import Soql.Config.Paths
import Soql.Store.Error
import Soql.Text.Pieces

namespace Soql.Cli

inductive Entry where
  | directory
  | file (text : String)
deriving DecidableEq, Repr

/-- The entries by their places, and the place that paths begin at. -/
structure Files where
  entries : List (List String × Entry)
  working : List String

namespace Files

/-- What is at a place. -/
def entry? (fs : Files) (place : List String) : Option Entry :=
  if place.isEmpty then some .directory else fs.entries.lookup place

def put (place : List String) (e : Entry) (fs : Files) : Files :=
  { fs with entries := (place, e) :: fs.entries.filter (·.1 != place) }

def remove (place : List String) (fs : Files) : Files :=
  { fs with entries := fs.entries.filter (·.1 != place) }

/-- A place after one more part of a path. -/
def follow (place : List String) (part : String) : List String :=
  if part = "" || part = "." then place
  else if part = ".." then place.dropLast
  else place ++ [part]

/-- The place that a path leads to. -/
def place (fs : Files) (path : String) : List String :=
  let parts := (Text.pieces (· == '/') path.toList).map String.ofList
  parts.foldl follow (if Path.isAbsolute path then [] else fs.working)

/-- Whether a path can only lead to a directory. -/
def namesDirectory (path : String) : Bool := path.toList.getLast? = some '/'

/-- All that leads from a place on to another one, the last part apart, are directories. -/
def reachFrom (fs : Files) (before : List String) : List String → Except SystemError Unit
  | [] | [_] => .ok ()
  | part :: rest =>
    match fs.entry? (before ++ [part]) with
    | none => .error .noSuchFile
    | some (.file _) => .error .notDirectory
    | some .directory => reachFrom fs (before ++ [part]) rest

def reach (fs : Files) (place : List String) : Except SystemError Unit := fs.reachFrom [] place

def read (path : String) (fs : Files) : Except SystemError String := do
  if path.isEmpty then throw .noSuchFile
  fs.reach (fs.place path)
  match fs.entry? (fs.place path) with
  | none => throw .noSuchFile
  | some .directory => throw .isDirectory
  | some (.file text) => if namesDirectory path then throw .notDirectory else return text

/-- Writes a file into a directory that is there. -/
def writeAt (place : List String) (text : String) (fs : Files) : Except SystemError Files := do
  fs.reach place
  match fs.entry? place with
  | some .directory => throw .isDirectory
  | _ => return fs.put place (.file text)

def write (path text : String) (fs : Files) : Except SystemError Files :=
  if path.isEmpty then .error .noSuchFile
  else if namesDirectory path then .error .isDirectory
  else fs.writeAt (fs.place path) text

/-- Makes the directories from a place on to another one. -/
def makeDirectories (before : List String) :
    List String → Files → Except SystemError Files
  | [], fs => .ok fs
  | part :: rest, fs =>
    match fs.entry? (before ++ [part]) with
    | none => makeDirectories (before ++ [part]) rest (fs.put (before ++ [part]) .directory)
    | some .directory => makeDirectories (before ++ [part]) rest fs
    | some (.file _) => .error (if rest.isEmpty then .fileExists else .notDirectory)

/-- Puts a file in the place of another one. -/
def rename (source target : List String) (fs : Files) : Except SystemError Files :=
  match fs.entry? source, fs.entry? target with
  | _, some .directory => .error .isDirectory
  | some e, _ => .ok ((fs.remove source).put target e)
  | none, _ => .error .noSuchFile

/-- The place of the file that is written before it takes the place of another one. -/
def beside (place : List String) : List String :=
  place.dropLast ++ [place.getLast?.getD "" ++ ".tmp"]

/-- The steps of saving a document at a place. -/
def saveSteps (place : List String) (text : String) : List (Files → Except SystemError Files) :=
  [makeDirectories [] place.dropLast, writeAt (beside place) "", writeAt (beside place) text,
    rename (beside place) place]

/-- Does steps up to the first one that is refused, and tells which one that is. -/
def runSteps : Nat → List (Files → Except SystemError Files) → Files →
    Option (Nat × SystemError) × Files
  | _, [], fs => (none, fs)
  | i, step :: steps, fs =>
    match step fs with
    | .ok fs => runSteps (i + 1) steps fs
    | .error e => (some (i, e), fs)

def save (path text : String) (fs : Files) : Option (Nat × SystemError) × Files :=
  runSteps 0 (saveSteps (fs.place path) text) fs

/-- The files with one more, and the directories that lead to it. -/
def withFile (path text : String) (fs : Files) : Files :=
  let place := fs.place path
  match makeDirectories [] place.dropLast fs with
  | .ok fs => fs.put place (.file text)
  | .error _ => fs

end Files

end Soql.Cli
