/-
# Reading typed data out of JSON values

A type says which values stand for it. A record is an object with one member for each
field, or a list of the fields in their order; members of other names are passed over.
An alternative of a choice is its name, or an object with that name alone over nothing.

Of several faults the first in the order of the value is reported; that a field is
missing is noticed last.

Key definitions: `Json.Mismatch`, `Json.Mismatch.message`, `Json.ReadError`, `Json.Habit`,
`Json.asString`, `Json.asChoice`, `Json.asList`, `Json.checkMembers`, `Json.member`, `Json.item`.
-/
import Soql.Json.Printer
import Soql.Json.Reader
import Soql.Text.Quoted

namespace Soql.Json

/-- Why a value does not stand for data of a type. -/
inductive Mismatch where
  | missingField (name : String)
  | duplicateField (name : String)
  | unknownChoice (name : String) (known : List String)
  | wrongType (found : Json) (wanted : String)
  | wrongNumber (found : Int) (wanted : String)
  | wrongShape (wanted : String)
  | wrongLength (length : Nat) (wanted : String)
deriving Repr, BEq

def inBackticks (s : String) : String := "`" ++ s ++ "`"

/-- A value as a message names it. -/
def describe : Json → String
  | .null => "null"
  | .bool b => "boolean " ++ inBackticks (if b then "true" else "false")
  | .int n => "integer " ++ inBackticks (toString n)
  | .real x => "floating point " ++ inBackticks x.text
  | .str s => "string " ++ String.ofList (Text.quoted s.toList)
  | .arr _ => "sequence"
  | .obj _ => "map"

/-- The choices that there are, in a sentence. -/
def describeChoices : List String → String
  | [] => "there are no variants"
  | [a] => "expected " ++ inBackticks a
  | [a, b] => "expected " ++ inBackticks a ++ " or " ++ inBackticks b
  | names => "expected one of " ++ ", ".intercalate (names.map inBackticks)

def Mismatch.message : Mismatch → String
  | .missingField name => "missing field " ++ inBackticks name
  | .duplicateField name => "duplicate field " ++ inBackticks name
  | .unknownChoice name known =>
    "unknown variant " ++ inBackticks name ++ ", " ++ describeChoices known
  | .wrongType found wanted => "invalid type: " ++ describe found ++ ", expected " ++ wanted
  | .wrongNumber found wanted =>
    "invalid value: " ++ describe (.int found) ++ ", expected " ++ wanted
  | .wrongShape wanted => "invalid value: map, expected " ++ wanted
  | .wrongLength length wanted =>
    "invalid length " ++ toString length ++ ", expected " ++ wanted

/-- Why a text does not stand for data of a type. -/
inductive ReadError where
  | fault (f : Fault)
  | mismatch (m : Mismatch)
deriving Repr

def ReadError.message : ReadError → String
  | .fault f => f.message
  | .mismatch m => m.message

/-- The two ways in which values reach a type: read whole on their own, or kept back from the
middle of a message until its kind was known. -/
inductive Habit where
  | direct
  | kept
deriving DecidableEq, Repr

/-- A list of `length` values where a record takes only `fields`. -/
def Habit.surplus : Habit → (length fields : Nat) → Mismatch
  | .direct, length, _ => .wrongLength length "fewer elements in array"
  | .kept, length, 1 => .wrongLength length "1 element in sequence"
  | .kept, length, fields => .wrongLength length (toString fields ++ " elements in sequence")

def asString : Json → Except Mismatch String
  | .str s => .ok s
  | v => .error (.wrongType v "a string")

/-- A whole number of 32 bits without a sign. -/
def asUInt32 : Json → Except Mismatch UInt32
  | .int n =>
    if 0 ≤ n ∧ n < UInt32.size then .ok (UInt32.ofNat n.toNat) else .error (.wrongNumber n "u32")
  | v => .error (.wrongType v "u32")

/-- Nothing, for `null`, or data of the type. -/
def asOption {α : Type} (read : Json → Except Mismatch α) : Json → Except Mismatch (Option α)
  | .null => .ok none
  | v => some <$> read v

def asListFrom {α : Type} (read : Json → Except Mismatch α) :
    List Json → Except Mismatch (List α)
  | [] => .ok []
  | v :: vs => do
    let x ← read v
    let xs ← asListFrom read vs
    return x :: xs

def asList {α : Type} (read : Json → Except Mismatch α) : Json → Except Mismatch (List α)
  | .arr items => asListFrom read items
  | v => .error (.wrongType v "a sequence")

/-- The alternative of a name. -/
def choose {α : Type} (choices : List (String × α)) (name : String) : Except Mismatch α :=
  match Named.get? name choices with
  | some x => .ok x
  | none => .error (.unknownChoice name (choices.map (·.1)))

/-- The nothing that may stand under the name of an alternative. -/
def asNothing (habit : Habit) : Json → Except Mismatch Unit
  | .null => .ok ()
  | .obj [] => if habit = .kept then .ok () else .error (.wrongType (.obj []) "unit")
  | v => .error (.wrongType v "unit")

def asChoice {α : Type} (habit : Habit) (choices : List (String × α)) :
    Json → Except Mismatch α
  | .str name => choose choices name
  | .obj [(name, v)] => do
    let x ← choose choices name
    asNothing habit v
    return x
  | .obj _ => .error (.wrongShape "map with a single key")
  | v => .error (.wrongType v "string or map")

/-- The members stand for the fields of a record: no field occurs twice, and each holds data of
its type. `seen` are the fields before. -/
def checkMembers (fields : Named (Json → Except Mismatch Unit)) :
    List String → List (String × Json) → Except Mismatch Unit
  | _, [] => .ok ()
  | seen, (name, v) :: rest =>
    match fields.get? name with
    | none => checkMembers fields seen rest
    | some check =>
      if name ∈ seen then .error (.duplicateField name)
      else do
        check v
        checkMembers fields (name :: seen) rest

/-- A field with its type forgotten, for `checkMembers`. -/
def checks {α : Type} (read : Json → Except Mismatch α) (v : Json) : Except Mismatch Unit :=
  (fun _ => ()) <$> read v

/-- The field of a name, or what stands for it when it is left out. -/
def member {α : Type} (name : String) (read : Json → Except Mismatch α)
    (missing : Except Mismatch α) (members : List (String × Json)) : Except Mismatch α :=
  match Named.get? name members with
  | some v => read v
  | none => missing

/-- The field at a place of a list, or what stands for it when the list ends before. -/
def item {α : Type} (i : Nat) (read : Json → Except Mismatch α)
    (missing : Except Mismatch α) (items : List Json) : Except Mismatch α :=
  match items[i]? with
  | some v => read v
  | none => missing

/-- The list has no more items than the record has fields. -/
def noSurplus (habit : Habit) (fields : Nat) (items : List Json) : Except Mismatch Unit :=
  if fields < items.length then .error (habit.surplus items.length fields) else .ok ()

end Soql.Json
