/-
# Reading an object field by field

An object can be read with an eye on each field as it comes, so that a fault in what a field
stands for is found before a fault in the text after it.

Key definitions: `Json.readFields`, `Json.nested`.
-/
import Soql.Json.Decode

namespace Soql.Json

def orFault {α : Type} : Except Fault α → Except ReadError α := Except.mapError .fault

def orMismatch {α : Type} : Except Mismatch α → Except ReadError α := Except.mapError .mismatch

/-- A value inside of a list or an object that is read piece by piece. -/
def nested (s : List Char) : Except Fault (Json × List Char) :=
  readNested .whole s.length (maxDepth - 1) s

variable {α : Type}

/-- The fields of an object that is not empty; `n` bounds their number. -/
def readFieldsFrom (readField : α → List Char → Except ReadError (α × List Char)) :
    Nat → α → List Char → Except ReadError (α × List Char)
  | 0, _, s => .error (.fault (faultAt s))
  | n + 1, d, s => do
    let (d, s) ← readField d s
    match skipGaps s with
    | ',' :: s => readFieldsFrom readField n d s
    | '\x7d' :: s => return (d, s)
    | s => throw (.fault (faultAt s))

/-- What the fields after an opening brace make of `d`, and the text after the closing one. -/
def readFields (readField : α → List Char → Except ReadError (α × List Char)) (d : α)
    (s : List Char) : Except ReadError (α × List Char) :=
  match skipGaps s with
  | '\x7d' :: s => .ok (d, s)
  | s => readFieldsFrom readField s.length d s

end Soql.Json
