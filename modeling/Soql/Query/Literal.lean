/-
# Literals

The text typed for a value becomes a literal of the query language. LIKE looks for the
text anywhere, IN and NOT IN take the pieces between its commas, and the other operators
take it as one text unless it is a number or names a variable. Nothing inside the text
is escaped.

Key definitions: `isNumberText`, `listItems`, `literal`.
-/
import Soql.Query.Operator
import Soql.Text.Digit

namespace Soql

open Text

/-- The mark before the name of a variable. -/
def variableMark : Char := '$'

/-- Digits with at most one point among them, one digit at least. -/
def isUnsignedNumber (s : List Char) : Bool :=
  let whole := s.takeWhile isDecimalDigit
  match s.dropWhile isDecimalDigit with
  | [] => !whole.isEmpty
  | c :: places =>
    c = '.' && places.all isDecimalDigit && !(whole.isEmpty && places.isEmpty)

/-- A number without an exponent; its digits may be of any script. -/
def isNumberText (s : List Char) : Bool :=
  match s with
  | [] => false
  | c :: r => if c = '+' || c = '-' then isUnsignedNumber r else isUnsignedNumber (c :: r)

def inQuotes (s : String) : String := "'" ++ s ++ "'"

/-- The trimmed pieces between the commas. -/
def listItems (value : String) : List String :=
  (pieces (· == ',') value.toList).map fun item => String.ofList (trim item)

/-- Whether a single value stands without quotes. -/
def isBare (value : String) : Bool :=
  value.toList.head? == some variableMark || isNumberText value.toList

/-- The literal of a typed value, as its operator takes it. -/
def literal (op : Operator) (value : String) : String :=
  if op = .like then inQuotes ("%" ++ value ++ "%")
  else if op.takesList then "(" ++ ", ".intercalate ((listItems value).map inQuotes) ++ ")"
  else if isBare value then value
  else inQuotes value

end Soql
