/-
# Comparison operators

Key definitions: `Operator`, `Operator.symbol`, `Operator.takesList`, `Operator.read`.
-/
import Soql.Query.Error
import Soql.Text.Blank

namespace Soql

inductive Operator where
  | eq | ne | like | gt | lt | ge | le | isIn | notIn
deriving DecidableEq, Repr

namespace Operator

def all : List Operator := [.eq, .ne, .like, .gt, .lt, .ge, .le, .isIn, .notIn]

/-- The operator in the query language. -/
def symbol : Operator → String
  | .eq => "="
  | .ne => "!="
  | .like => "LIKE"
  | .gt => ">"
  | .lt => "<"
  | .ge => ">="
  | .le => "<="
  | .isIn => "IN"
  | .notIn => "NOT IN"

/-- Whether the value is a list of values between commas. -/
def takesList : Operator → Bool
  | .isIn | .notIn => true
  | _ => false

/-- The operator that capital words with one blank between them name. -/
def named? : String → Option Operator
  | "=" | "EQ" => some .eq
  | "!=" | "<>" | "NEQ" => some .ne
  | "LIKE" => some .like
  | ">" | "GT" => some .gt
  | "<" | "LT" => some .lt
  | ">=" | "GTE" => some .ge
  | "<=" | "LTE" => some .le
  | "IN" => some .isIn
  | "NOT IN" | "NOT_IN" => some .notIn
  | _ => none

/-- The operator that a text names, in letters of either case and with any blanks around and
between its words. -/
def read (text : String) : Except QueryError Operator :=
  let normal := [' '].intercalate (Text.words text.toList)
  match named? (String.ofList (normal.map Char.toUpper)) with
  | some op => .ok op
  | none => .error (.unknownOperator text)

end Operator

end Soql
