/-
# What can be wrong with typed parts of a query

Key definitions: `QueryError`, `QueryError.message`, `FilterFault`.
-/
import Soql.Text.Quoted

namespace Soql

/-- Why a filter does not begin with a condition, with the text that was met instead. -/
inductive FilterFault where
  | noField (rest : List Char)
  | noOperator (rest : List Char)
  | noValue (rest : List Char)
  | openQuote (rest : List Char)
deriving DecidableEq, Repr

def FilterFault.rest : FilterFault → List Char
  | .noField r | .noOperator r | .noValue r | .openQuote r => r

/-- The name under which a fault is reported. -/
def FilterFault.code : FilterFault → String
  | .noField _ | .noValue _ => "TakeWhile1"
  | .noOperator _ => "Tag"
  | .openQuote _ => "Char"

def FilterFault.message (f : FilterFault) : String :=
  "Error(Error \x7b input: " ++ String.ofList (Text.quoted f.rest) ++ ", code: " ++ f.code ++
    " \x7d)"

inductive QueryError where
  | unknownOperator (text : String)
  | unknownConjunction (text : String)
  | badFilter (fault : FilterFault)
  | unreadFilter (rest : String)
  | noSortField
  | unknownDirection (word : String)
  | surplusSortWord (word : String)
deriving DecidableEq, Repr

def QueryError.message : QueryError → String
  | .unknownOperator text => "Invalid operator: " ++ text
  | .unknownConjunction text => "Parse error: Unknown conjunction: " ++ text
  | .badFilter fault => "Parse error: Parse error: " ++ fault.message
  | .unreadFilter rest => "Parse error: Unexpected input after filter: '" ++ rest ++ "'"
  | .noSortField => "Invalid order by: missing field"
  | .unknownDirection word => "Invalid order by: unknown direction " ++ word
  | .surplusSortWord word =>
    "Invalid order by: unexpected '" ++ word ++ "' after direction"

end Soql
