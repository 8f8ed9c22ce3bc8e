/-
# Sort orders as they are typed

Key definitions: `SortOrder.read`.
-/
import Soql.Query.Basic

namespace Soql

/-- The direction that a word names in letters of either case. -/
def Direction.read (word : List Char) : Except QueryError Direction :=
  match String.ofList (word.map Char.toUpper) with
  | "ASC" => .ok .ascending
  | "DESC" => .ok .descending
  | w => .error (.unknownDirection w)

/-- A field, and the direction that may follow it. -/
def SortOrder.read (text : String) : Except QueryError SortOrder :=
  match Text.words text.toList with
  | [] => .error .noSortField
  | [field] => .ok ⟨String.ofList field, .ascending⟩
  | field :: word :: rest => do
    let direction ← Direction.read word
    match rest with
    | [] => return ⟨String.ofList field, direction⟩
    | extra :: _ => throw (.surplusSortWord (String.ofList extra))

end Soql
