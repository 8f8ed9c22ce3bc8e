/-
# TOML documents

A document is a table. Its entries stand one on a line, and headers say of which table
the lines after them are entries. No table has two headers, and no key two values.

Key definitions: `Toml.Line`, `Toml.parse`.
-/
import Soql.Toml.Reader

namespace Soql.Toml

/-- What a line says. -/
inductive Line where
  | entry (key : List String) (v : Toml)
  | header (path : List String)
  /-- The header of one more table in a list of tables. -/
  | row (path : List String)

/-- The text after the end of a line, which a comment may precede. -/
def endLine (s : List Char) : Option (List Char) :=
  match skipComment (skipBlanks s) with
  | [] => some []
  | s => takeLineEnd? s

/-- The lines of a document that say something; `n` bounds their number. -/
def readLinesOf : Nat → List Char → Option (List Line)
  | 0, _ => none
  | n + 1, s =>
    match skipBlanks s with
    | [] => some []
    | '[' :: '[' :: s => do
      let (path, s) ← readKey s
      let s ← endLine (← expectWord [']', ']'] s)
      return .row path :: (← readLinesOf n s)
    | '[' :: s => do
      let (path, s) ← readKey s
      let s ← endLine (← expectWord [']'] s)
      return .header path :: (← readLinesOf n s)
    | c :: s =>
      if c = '#' || c = '\n' || c = '\r' then do readLinesOf n (← endLine (c :: s))
      else do
        let ((key, v), s) ← readPair readValue (c :: s)
        return .entry key v :: (← readLinesOf n (← endLine s))

/-! ### Putting the lines together -/

/-- Changes the table at the end of a path of names, making the tables on the way. -/
def change (f : Entries → Option Entries) : (path : List String) → Entries → Option Entries
  | [], t => f t
  | name :: path, t =>
    match t.get? name with
    | none => (change f path []).map fun u => t.put name (.table .path u)
    | some (.table origin u) => (change f path u).map fun u => t.put name (.table origin u)
    | some (.rows us) => (changeLast (change f path) us).map fun us => t.put name (.rows us)
    | some (.value _) => none

/-- Gives a table its header; one that was only a part of a path may have been made before. -/
def openTable (name : String) (t : Entries) : Option Entries :=
  match t.get? name with
  | none => some (t.put name (.table .header []))
  | some (.table .path u) => some (t.put name (.table .header u))
  | some _ => none

def openRow (name : String) (t : Entries) : Option Entries :=
  match t.get? name with
  | none => some (t.put name (.rows [[]]))
  | some (.rows us) => some (t.put name (.rows (us ++ [[]])))
  | some _ => none

/-- Opens what the last name of a path names. -/
def openAt (f : String → Entries → Option Entries) (path : List String) (t : Entries) :
    Option Entries := do
  change (f (← path.getLast?)) path.dropLast t

/-- The document so far, and the path of the table that the next entries belong to. -/
structure Draft where
  root : Entries
  path : List String

def Draft.add (d : Draft) : Line → Option Draft
  | .entry key v => do return { d with root := ← change (insert? v key) d.path d.root }
  | .header path => do return ⟨← openAt openTable path d.root, path⟩
  | .row path => do return ⟨← openAt openRow path d.root, path⟩

/-- The text without a byte order mark at its start. -/
def withoutMark : List Char → List Char
  | '\ufeff' :: s => s
  | s => s

/-- The table that a document writes. -/
def parse (text : String) : Option (Named Toml) := do
  let s := withoutMark text.toList
  let lines ← readLinesOf (s.length + 1) s
  let d ← lines.foldlM Draft.add ⟨[], []⟩
  return entriesToToml d.root

end Soql.Toml
