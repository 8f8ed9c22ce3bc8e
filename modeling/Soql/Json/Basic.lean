/-
# JSON values

A value as it was written: an object keeps its members in their order, repeated names
included. Whole numbers are told apart from numbers with a fraction or an exponent.

`tidy` gives the value that a reader keeps who has no use for the order: of members of
one name the last stays, and members stand in the order of their names.

Key definitions: `Json`, `Json.tidy`, `Json.text?`, `Json.int64?`.
-/
import Soql.Named
import Soql.Number.Binary64

namespace Soql

inductive Json where
  | null
  | bool (b : Bool)
  | int (n : Int)
  | real (x : Binary64)
  | str (s : String)
  | arr (items : List Json)
  | obj (members : List (String × Json))
deriving Repr, Inhabited, BEq

namespace Json

mutual

/-- The value with the members of every object in the order of their names, and of those
of one name only the last. -/
def tidy : Json → Json
  | .arr items => .arr (tidyItems items)
  | .obj members => .obj (tidyMembers [] members)
  | v => v

def tidyItems : List Json → List Json
  | [] => []
  | v :: vs => tidy v :: tidyItems vs

/-- Puts the tidied members one after another into `kept`. -/
def tidyMembers (kept : Named Json) : List (String × Json) → Named Json
  | [] => kept
  | (name, v) :: rest => tidyMembers (kept.put name (tidy v)) rest

end

/-- The text of a string. -/
def text? : Json → Option String
  | .str s => some s
  | _ => none

/-- A whole number that fits into 64 bits with a sign. -/
def int64? : Json → Option Int64
  | .int n => if Int64.minValue.toInt ≤ n ∧ n ≤ Int64.maxValue.toInt then some (Int64.ofInt n)
    else none
  | _ => none

end Json

end Soql
