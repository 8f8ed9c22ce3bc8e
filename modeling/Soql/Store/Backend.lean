/-
# Where entries are kept

Entries are kept in memory only, or in memory with a state file that every write
replaces. A write takes effect as a whole or, when it fails, not at all.

Key definitions: `Backend`, `Backend.get`, `Backend.update`, `Backend.reopen`.
-/
import Soql.Store.StateFile

namespace Soql

/-- Entries in memory, and whether reading and writing them fails. -/
structure MemoryEntries where
  entries : Named Json
  readsFail : Bool
  writesFail : Bool

/-- Entries in memory with their state file, and which steps of saving the system refuses. -/
structure FileEntries where
  path : String
  entries : Named Json
  disk : Disk
  refuses : Nat → Option SystemError

inductive Backend where
  | memory (m : MemoryEntries)
  | file (f : FileEntries)

namespace Backend

def ofEntries (entries : Named Json) : Backend := .memory ⟨entries, false, false⟩

/-- Entries from a state file, if there is one. -/
def openFile (path : String) (disk : Disk) (refuses : Nat → Option SystemError) :
    Except StoreError Backend :=
  match disk.state with
  | none => .ok (.file ⟨path, [], disk, refuses⟩)
  | some text =>
    match StateFile.read text with
    | .ok entries => .ok (.file ⟨path, entries, disk, refuses⟩)
    | .error e => .error (.unreadable path e)

/-- Opened again, from the state file if there is one. -/
def reopen : Backend → Except StoreError Backend
  | .memory m => .ok (.memory m)
  | .file f => openFile f.path f.disk f.refuses

def get (key : String) : Backend → Except StoreError (Option Json)
  | .memory m => if m.readsFail then .error (.trouble "disk gone") else .ok (m.entries.get? key)
  | .file f => .ok (f.entries.get? key)

/-- Writes the changed entries. -/
def update (change : Named Json → Named Json) : Backend → Except StoreError Unit × Backend
  | .memory m =>
    if m.writesFail then (.error (.trouble "disk full"), .memory m)
    else (.ok (), .memory { m with entries := change m.entries })
  | .file f =>
    match Disk.save f.refuses (change f.entries) f.disk with
    | (.ok (), disk) => (.ok (), .file { f with entries := change f.entries, disk })
    | (.error e, disk) => (.error (.system e), .file { f with disk })

/-- With other refusals from now on. -/
def refusing (refuses : Nat → Option SystemError) : Backend → Backend
  | .memory m => .memory m
  | .file f => .file { f with refuses }

/-- The path and the text of the state file, if there is one. -/
def document? : Backend → Option (String × String)
  | .memory _ => none
  | .file f => f.disk.state.map fun text => (f.path, text)

def setMany (entries : Named Json) : Backend → Except StoreError Unit × Backend :=
  update (Named.putAll entries)

def removeMany (keys : List String) : Backend → Except StoreError Unit × Backend :=
  update (Named.eraseAll keys)

end Backend

end Soql
