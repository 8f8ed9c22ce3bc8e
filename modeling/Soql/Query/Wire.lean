/-
# Queries as JSON

The JSON form of the parts of a query, both ways. Left out, the object is empty, the
fields are the default field, and the other parts of a query are missing.

Key definitions: `Operator.ofJson`, `Condition.ofJson`, `Query.ofJson`, `Row.ofJson`,
`Query.toJson`.
-/
import Soql.Json.Decode
import Soql.Query.Form

namespace Soql

open Json

def Operator.choices : List (String × Operator) := Operator.all.map fun op => (op.symbol, op)

def Operator.ofJson (habit : Habit) : Json → Except Mismatch Operator :=
  asChoice habit Operator.choices

def Operator.toJson (op : Operator) : Json := .str op.symbol

def Conjunction.ofJson (habit : Habit) : Json → Except Mismatch Conjunction :=
  asChoice habit [("AND", .and), ("OR", .or)]

def Conjunction.toJson (k : Conjunction) : Json := .str k.word

def Direction.ofJson (habit : Habit) : Json → Except Mismatch Direction :=
  asChoice habit [("ASC", .ascending), ("DESC", .descending)]

def Direction.toJson (d : Direction) : Json := .str d.word

def optionToJson {α : Type} (toJson : α → Json) : Option α → Json
  | some x => toJson x
  | none => .null

namespace Condition

def ofMembers (habit : Habit) (ms : List (String × Json)) : Except Mismatch Condition := do
  checkMembers [("field", checks asString), ("operator", checks (Operator.ofJson habit)),
    ("raw_value", checks asString),
    ("conjunction", checks (asOption (Conjunction.ofJson habit)))] [] ms
  return {
    field := ← member "field" asString (.error (.missingField "field")) ms
    operator := ← member "operator" (Operator.ofJson habit) (.error (.missingField "operator")) ms
    value := ← member "raw_value" asString (.error (.missingField "raw_value")) ms
    conjunction := ← member "conjunction" (asOption (Conjunction.ofJson habit)) (.ok none) ms }

def ofItems (habit : Habit) (vs : List Json) : Except Mismatch Condition := do
  let short (n : Nat) := Mismatch.wrongLength n "struct Condition with 4 elements"
  let c : Condition := {
    field := ← item 0 asString (.error (short 0)) vs
    operator := ← item 1 (Operator.ofJson habit) (.error (short 1)) vs
    value := ← item 2 asString (.error (short 2)) vs
    conjunction := ← item 3 (asOption (Conjunction.ofJson habit)) (.ok none) vs }
  noSurplus habit 4 vs
  return c

def ofJson (habit : Habit) : Json → Except Mismatch Condition
  | .obj ms => ofMembers habit ms
  | .arr vs => ofItems habit vs
  | v => .error (.wrongType v "struct Condition")

def toJson (c : Condition) : Json :=
  .obj [("field", .str c.field), ("operator", c.operator.toJson), ("raw_value", .str c.value),
    ("conjunction", optionToJson Conjunction.toJson c.conjunction)]

end Condition

namespace SortOrder

def ofMembers (habit : Habit) (ms : List (String × Json)) : Except Mismatch SortOrder := do
  checkMembers [("field", checks asString), ("direction", checks (Direction.ofJson habit))] [] ms
  return {
    field := ← member "field" asString (.error (.missingField "field")) ms
    direction := ← member "direction" (Direction.ofJson habit) (.ok .ascending) ms }

def ofItems (habit : Habit) (vs : List Json) : Except Mismatch SortOrder := do
  let o : SortOrder := {
    field := ← item 0 asString
      (.error (.wrongLength 0 "struct OrderBy with 2 elements")) vs
    direction := ← item 1 (Direction.ofJson habit) (.ok .ascending) vs }
  noSurplus habit 2 vs
  return o

def ofJson (habit : Habit) : Json → Except Mismatch SortOrder
  | .obj ms => ofMembers habit ms
  | .arr vs => ofItems habit vs
  | v => .error (.wrongType v "struct OrderBy")

def toJson (o : SortOrder) : Json :=
  .obj [("field", .str o.field), ("direction", o.direction.toJson)]

end SortOrder

namespace Query

def ofMembers (habit : Habit) (ms : List (String × Json)) : Except Mismatch Query := do
  checkMembers [("object", checks asString), ("fields", checks (asList asString)),
    ("conditions", checks (asList (Condition.ofJson habit))),
    ("order_by", checks (asOption (SortOrder.ofJson habit))),
    ("limit", checks (asOption asUInt32))] [] ms
  return {
    object := ← member "object" asString (.ok "") ms
    fields := ← member "fields" (asList asString) (.ok [defaultField]) ms
    conditions := ← member "conditions" (asList (Condition.ofJson habit)) (.ok []) ms
    order := ← member "order_by" (asOption (SortOrder.ofJson habit)) (.ok none) ms
    limit := ← member "limit" (asOption asUInt32) (.ok none) ms }

def ofItems (habit : Habit) (vs : List Json) : Except Mismatch Query := do
  let q : Query := {
    object := ← item 0 asString (.ok "") vs
    fields := ← item 1 (asList asString) (.ok [defaultField]) vs
    conditions := ← item 2 (asList (Condition.ofJson habit)) (.ok []) vs
    order := ← item 3 (asOption (SortOrder.ofJson habit)) (.ok none) vs
    limit := ← item 4 (asOption asUInt32) (.ok none) vs }
  noSurplus habit 5 vs
  return q

def ofJson (habit : Habit) : Json → Except Mismatch Query
  | .obj ms => ofMembers habit ms
  | .arr vs => ofItems habit vs
  | v => .error (.wrongType v "struct QuerySpec")

def toJson (q : Query) : Json :=
  .obj [("object", .str q.object), ("fields", .arr (q.fields.map .str)),
    ("conditions", .arr (q.conditions.map Condition.toJson)),
    ("order_by", optionToJson SortOrder.toJson q.order),
    ("limit", optionToJson (fun n => .int n.toNat) q.limit)]

end Query

namespace Row

def ofMembers (habit : Habit) (ms : List (String × Json)) : Except Mismatch Row := do
  checkMembers [("field", checks asString), ("operator", checks (Operator.ofJson habit)),
    ("value", checks asString), ("conjunction", checks (Conjunction.ofJson habit))] [] ms
  return {
    field := ← member "field" asString (.ok "") ms
    operator := ← member "operator" (Operator.ofJson habit) (.error (.missingField "operator")) ms
    value := ← member "value" asString (.ok "") ms
    conjunction := ← member "conjunction" (Conjunction.ofJson habit) (.ok .and) ms }

def ofItems (habit : Habit) (vs : List Json) : Except Mismatch Row := do
  let r : Row := {
    field := ← item 0 asString (.ok "") vs
    operator := ← item 1 (Operator.ofJson habit)
      (.error (.wrongLength 1 "struct ConditionRow with 4 elements")) vs
    value := ← item 2 asString (.ok "") vs
    conjunction := ← item 3 (Conjunction.ofJson habit) (.ok .and) vs }
  noSurplus habit 4 vs
  return r

def ofJson (habit : Habit) : Json → Except Mismatch Row
  | .obj ms => ofMembers habit ms
  | .arr vs => ofItems habit vs
  | v => .error (.wrongType v "struct ConditionRow")

def toJson (r : Row) : Json :=
  .obj [("field", .str r.field), ("operator", r.operator.toJson), ("value", .str r.value),
    ("conjunction", r.conjunction.toJson)]

end Row

end Soql
