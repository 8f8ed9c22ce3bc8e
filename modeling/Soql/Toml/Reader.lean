/-
# Values in TOML text

Lists may go over several lines and hold comments; tables on one line may not. Lists and
tables stand in each other up to 79 deep, and a dotted key has at most 79 parts.

Key definitions: `Toml.readValue`, `Toml.readKey`, `Toml.Node`, `Toml.insert?`.
-/
import Soql.Named
import Soql.Toml.Number

namespace Soql.Toml

/-! ### Keys -/

def isBareChar (c : Char) : Bool := c.isAlphanum || c = '_' || c = '-'

/-- One part of a key. -/
def readKeyPart (s : List Char) : Option (String × List Char) :=
  match s with
  | '"' :: _ | '\'' :: _ => (readLine s).map fun (t, r) => (String.ofList t, r)
  | _ =>
    match s.takeWhile isBareChar with
    | [] => none
    | name => some (String.ofList name, s.dropWhile isBareChar)

/-- The parts of a key with dots between them; `n` bounds their number. -/
def readKeyFrom : Nat → List Char → Option (List String × List Char)
  | 0, _ => none
  | n + 1, s => do
    let (part, s) ← readKeyPart (skipBlanks s)
    match skipBlanks s with
    | '.' :: s => do
      let (parts, s) ← readKeyFrom n s
      some (part :: parts, s)
    | s => some ([part], s)

/-- How deep lists and tables may stand in each other, and how many parts a key may have. -/
def maxDepth : Nat := 79

def readKey (s : List Char) : Option (List String × List Char) := readKeyFrom maxDepth s

/-! ### Tables while they are read -/

/-- How a table came to be: by a header or braces of its own, as a part of the path in a longer
header, or by a dotted key. -/
inductive Origin where
  | header
  | path
  | dotted
deriving DecidableEq, Repr

inductive Node where
  | value (v : Toml)
  | table (origin : Origin) (entries : List (String × Node))
  | rows (tables : List (List (String × Node)))
deriving Inhabited

/-- The entries of a table. -/
abbrev Entries := Named Node

mutual

def Node.toToml : Node → Toml
  | .value v => v
  | .table _ entries => .tab (entriesToToml entries)
  | .rows tables => .arr (rowsToToml tables)

def entriesToToml : List (String × Node) → List (String × Toml)
  | [] => []
  | (name, n) :: rest => (name, n.toToml) :: entriesToToml rest

def rowsToToml : List (List (String × Node)) → List Toml
  | [] => []
  | t :: rest => .tab (entriesToToml t) :: rowsToToml rest

end

/-- Changes the last table of a list of tables. -/
def changeLast (f : Entries → Option Entries) : List Entries → Option (List Entries)
  | [] => none
  | [t] => (f t).map ([·])
  | t :: u :: rest => (changeLast f (u :: rest)).map (t :: ·)

/-- Puts a value under a dotted key that is not in use. A dotted key makes tables of its own, and
adds to no table that was made in another way. -/
def insert? (v : Toml) : (key : List String) → Entries → Option Entries
  | [], _ => none
  | [name], t => if (t.get? name).isSome then none else some (t.put name (.value v))
  | name :: key, t =>
    match t.get? name with
    | none => (insert? v key []).map fun u => t.put name (.table .dotted u)
    | some (.table .dotted u) => (insert? v key u).map fun u => t.put name (.table .dotted u)
    | some (.table .path u) =>
      if key.length = 1 then none
      else (insert? v key u).map fun u => t.put name (.table .path u)
    | some (.rows us) =>
      if key.length = 1 then none
      else (changeLast (insert? v key) us).map fun us => t.put name (.rows us)
    | some _ => none

/-! ### Values -/

/-- A number sign and what follows it on its line. -/
def skipComment : List Char → List Char
  | '#' :: s => s.dropWhile isCommentChar
  | s => s

/-- The text after blanks, comments and line ends; `n` bounds their number. -/
def skipLayoutFrom : Nat → List Char → List Char
  | 0, s => s
  | n + 1, s =>
    match takeLineEnd? (skipComment (skipBlanks s)) with
    | some s => skipLayoutFrom n s
    | none => skipBlanks s

def skipLayout (s : List Char) : List Char := skipLayoutFrom s.length s

/-- The text after a word that must stand at its start. -/
def expectWord : List Char → List Char → Option (List Char)
  | [], s => some s
  | _ :: _, [] => none
  | w :: ws, c :: s => if w = c then expectWord ws s else none

/-- The values after the opening bracket of a list; `n` bounds their number. A comma may follow
the last one. -/
def readItems (read : List Char → Option (Toml × List Char)) :
    Nat → List Char → Option (List Toml × List Char)
  | 0, _ => none
  | n + 1, s =>
    match skipLayout s with
    | ']' :: s => some ([], s)
    | s => do
      let (v, s) ← read s
      match skipLayout s with
      | ',' :: s => do
        let (vs, s) ← readItems read n s
        some (v :: vs, s)
      | ']' :: s => some ([v], s)
      | _ => none

/-- A key, an equals sign and a value. -/
def readPair (read : List Char → Option (Toml × List Char)) (s : List Char) :
    Option ((List String × Toml) × List Char) := do
  let (key, s) ← readKey s
  let s ← expectWord ['='] s
  let (v, s) ← read (skipBlanks s)
  some ((key, v), skipBlanks s)

/-- The entries after the opening brace of a table that is not empty; `n` bounds their number. -/
def readEntries (read : List Char → Option (Toml × List Char)) :
    Nat → Entries → List Char → Option (Entries × List Char)
  | 0, _, _ => none
  | n + 1, t, s => do
    let ((key, v), s) ← readPair read s
    let t ← insert? v key t
    match s with
    | ',' :: s => readEntries read n t s
    | '\x7d' :: s => some (t, s)
    | _ => none

/-- A value that holds lists and tables up to `depth` deep. -/
def readNested : Nat → List Char → Option (Toml × List Char)
  | depth, s =>
    match s with
    | '"' :: _ | '\'' :: _ => (readString s).map fun (t, r) => (.str (String.ofList t), r)
    | 't' :: s => (expectWord ['r', 'u', 'e'] s).map fun r => (.bool true, r)
    | 'f' :: s => (expectWord ['a', 'l', 's', 'e'] s).map fun r => (.bool false, r)
    | '[' :: s =>
      match depth with
      | 0 => none
      | depth + 1 => (readItems (readNested depth) (s.length + 1) s).map fun (vs, r) => (.arr vs, r)
    | '\x7b' :: s =>
      match depth with
      | 0 => none
      | depth + 1 =>
        match skipBlanks s with
        | '\x7d' :: r => some (.tab [], r)
        | s => (readEntries (readNested depth) s.length [] s).map fun (t, r) =>
          (.tab (entriesToToml t), r)
    | c :: _ =>
      if c.isDigit || c = '+' || c = '-' || c = 'i' || c = 'n' then readNumber s else none
    | [] => none

def readValue (s : List Char) : Option (Toml × List Char) := readNested maxDepth s

end Soql.Toml
