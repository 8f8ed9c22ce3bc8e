/-
# Queries

A query as a form describes it, and its text in the query language. Every description
has a text: without an object `Account` is queried, and without a field `Id` is
selected. Blank fields, conditions that are not active, a blank sort field and a limit of
zero leave no trace in the text.

Key definitions: `Direction`, `SortOrder`, `Query`, `Query.compile`.
-/
import Soql.Query.Clause

namespace Soql

inductive Direction where
  | ascending
  | descending
deriving DecidableEq, Repr

def Direction.word : Direction → String
  | .ascending => "ASC"
  | .descending => "DESC"

structure SortOrder where
  field : String
  direction : Direction
deriving DecidableEq, Repr

structure Query where
  object : String
  fields : List String
  conditions : List Condition
  order : Option SortOrder
  limit : Option UInt32
deriving DecidableEq, Repr

namespace Query

def fallbackObject : String := "Account"

def defaultField : String := "Id"

/-- A query of the default field of an object. -/
def on (object : String) : Query := ⟨object, [defaultField], [], none, none⟩

def withFields (fields : List String) (q : Query) : Query := { q with fields }

def withCondition (c : Condition) (q : Query) : Query :=
  { q with conditions := q.conditions ++ [c] }

def orderedBy (field : String) (direction : Direction) (q : Query) : Query :=
  { q with order := some ⟨field, direction⟩ }

def limitedTo (n : UInt32) (q : Query) : Query := { q with limit := some n }

/-- The object that is queried. -/
def objectName (q : Query) : String :=
  if isBlankString q.object then fallbackObject else stripped q.object

/-- The fields that are selected. -/
def selected (q : Query) : List String :=
  let named := (q.fields.filter (!isBlankString ·)).map stripped
  if named.isEmpty then [defaultField] else named

/-- What stands in the text for a part that may be missing. -/
def part (before text : String) : String := if text.isEmpty then "" else before ++ text

/-- The order that the text asks for. -/
def sorting (q : Query) : Option SortOrder :=
  match q.order with
  | some o => if isBlankString o.field then none else some ⟨stripped o.field, o.direction⟩
  | none => none

/-- The greatest number of rows that the text asks for. -/
def rowLimit (q : Query) : Option UInt32 := q.limit.filter (0 < ·)

def renderOrder : Option SortOrder → String
  | some o => " ORDER BY " ++ o.field ++ " " ++ o.direction.word
  | none => ""

def renderLimit : Option UInt32 → String
  | some n => " LIMIT " ++ toString n.toNat
  | none => ""

/-- The text of the query. -/
def compile (q : Query) : String :=
  "SELECT " ++ ", ".intercalate q.selected ++ " FROM " ++ q.objectName ++
    part " WHERE " (clause q.conditions) ++ renderOrder q.sorting ++ renderLimit q.rowLimit

end Query

end Soql
