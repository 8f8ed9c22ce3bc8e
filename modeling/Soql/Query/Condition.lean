/-
# Conditions

A condition compares a field with the text that was typed for its value, and says how
it is joined to the condition after it. A condition without a field or without a value
is still being filled in and takes no part in a query.

Key definitions: `Conjunction`, `Condition`, `Condition.isActive`, `activeConditions`.
-/
import Soql.Query.Operator

namespace Soql

inductive Conjunction where
  | and
  | or
deriving DecidableEq, Repr

namespace Conjunction

def word : Conjunction → String
  | .and => "AND"
  | .or => "OR"

/-- The conjunction that a text names, in letters of either case and with blanks around it. -/
def read (text : String) : Except QueryError Conjunction :=
  match String.ofList ((Text.trim text.toList).map Char.toUpper) with
  | "AND" => .ok .and
  | "OR" => .ok .or
  | _ => .error (.unknownConjunction text)

end Conjunction

structure Condition where
  field : String
  operator : Operator
  value : String
  /-- How the next condition is joined; nothing is the same as AND. -/
  conjunction : Option Conjunction
deriving DecidableEq, Repr

namespace Condition

/-- A condition that joins nothing. -/
def single (field : String) (operator : Operator) (value : String) : Condition :=
  ⟨field, operator, value, none⟩

def joinedBy (k : Option Conjunction) (c : Condition) : Condition := { c with conjunction := k }

def isActive (c : Condition) : Bool := !isBlankString c.field && !c.value.isEmpty

/-- Whether the next condition is an alternative to this one. -/
def joinsOr (c : Condition) : Bool := c.conjunction == some .or

end Condition

def activeConditions (cs : List Condition) : List Condition := cs.filter Condition.isActive

end Soql
