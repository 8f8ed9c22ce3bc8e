/-
# The state file

Entries are kept in one JSON document with a version number. A document is read field by
field: the version must be a whole number of 32 bits, the entries may be missing, and what
stands under other names is passed over with only its shape checked.

Saving makes the directory, writes a file beside the state file, and puts that file in its
place in one step, so that the state file always holds a whole document.

Key definitions: `StateFile.write`, `StateFile.read`, `Disk`, `SaveStep`, `Disk.save`.
-/
import Soql.Json.Fields
import Soql.Store.Error

namespace Soql

namespace StateFile

open Json

def version : Nat := 1

/-- The document of the entries. -/
def write (entries : Named Json) : String :=
  (Json.obj [("version", .int version), ("entries", .obj entries)]).pretty

/-- The fields of a document that were read. -/
structure Draft where
  hasVersion : Bool
  entries : Option (Named Json)

def readVersion (s : List Char) : Except ReadError (List Char) := do
  let (v, s) ← orFault (nested s)
  let _ ← orMismatch (asUInt32 v)
  return s

def readEntries (s : List Char) : Except ReadError (Named Json × List Char) := do
  let (v, s) ← orFault (nested s)
  match v with
  | .obj members => return (tidyMembers [] members, s)
  | v => throw (.mismatch (.wrongType v "a map"))

/-- One field of a document. -/
def readField (d : Draft) (s : List Char) : Except ReadError (Draft × List Char) := do
  let (name, s) ← orFault (readName .whole s.length s)
  if name = "version" then
    if d.hasVersion then throw (.mismatch (.duplicateField name))
    let s ← readVersion s
    return ({ d with hasVersion := true }, s)
  else if name = "entries" then
    if d.entries.isSome then throw (.mismatch (.duplicateField name))
    let (entries, s) ← readEntries s
    return ({ d with entries := some entries }, s)
  else
    return (d, ← orFault (skipValue s))

def readObject (s : List Char) : Except ReadError (Named Json × List Char) := do
  let (d, s) ← readFields readField ⟨false, none⟩ s
  if !d.hasVersion then throw (.mismatch (.missingField "version"))
  return (d.entries.getD [], s)

/-- A document written as the list of its fields. -/
def readList (s : List Char) : Except ReadError (Named Json × List Char) := do
  match skipGaps s with
  | ']' :: _ => throw (.mismatch (.wrongLength 0 "struct StateFileData with 2 elements"))
  | s => do
    let s ← readVersion s
    match skipGaps s with
    | ']' :: s => return ([], s)
    | ',' :: s => do
      let (entries, s) ← readEntries s
      match skipGaps s with
      | ']' :: s => return (entries, s)
      | s => throw (.fault (faultAt s))
    | s => throw (.fault (faultAt s))

/-- The entries of a document. -/
def read (text : String) : Except ReadError (Named Json) := do
  let (entries, s) ← match skipGaps text.toList with
    | '\x7b' :: s => readObject s
    | '[' :: s => readList s
    | s => do
      let (v, _) ← orFault (readValue s)
      throw (.mismatch (.wrongType v "struct StateFileData"))
  orFault (expectEnd s)
  return entries

end StateFile

/-! ### Saving -/

/-- The part of a file system that saving touches. -/
structure Disk where
  /-- The text of the state file. -/
  state : Option String
  /-- The text of the file beside it. -/
  temp : Option String
deriving DecidableEq, Repr

namespace Disk

def empty : Disk := ⟨none, none⟩

/-- The steps of saving a document, in their order. -/
inductive SaveStep where
  | makeDirectory
  | createTemp
  | writeTemp (text : String)
  | renameTemp
deriving DecidableEq, Repr

def SaveStep.apply : SaveStep → Disk → Disk
  | .makeDirectory, d => d
  | .createTemp, d => { d with temp := some "" }
  | .writeTemp text, d => { d with temp := some text }
  | .renameTemp, d => ⟨d.temp, none⟩

def saveSteps (entries : Named Json) : List SaveStep :=
  [.makeDirectory, .createTemp, .writeTemp (StateFile.write entries), .renameTemp]

/-- Runs steps one after another; `refuses` tells which of them, by its place, the system
refuses, and a step that it refuses is the last one. -/
def run (refuses : Nat → Option SystemError) :
    Nat → List SaveStep → Disk → Except SystemError Unit × Disk
  | _, [], d => (.ok (), d)
  | i, step :: steps, d =>
    match refuses i with
    | some e => (.error e, d)
    | none => run refuses (i + 1) steps (step.apply d)

def save (refuses : Nat → Option SystemError) (entries : Named Json) (d : Disk) :
    Except SystemError Unit × Disk :=
  run refuses 0 (saveSteps entries) d

end Disk

end Soql
