/-
# The form behind a query

The state of a form in which a query is put together: the selected object and fields,
rows of conditions that may be half filled in, a sort order, and the limit as it was
typed. The text of the query is brought up to date by every change.

Key definitions: `Row`, `Form`, `Form.query`, `Form.refresh`, `Form.readLimit?`.
-/
import Soql.Query.Basic

namespace Soql

/-- One line of the list of conditions. -/
structure Row where
  field : String
  operator : Operator
  value : String
  conjunction : Conjunction
deriving DecidableEq, Repr

namespace Row

def blank : Row := ⟨"", .eq, "", .and⟩

def isComplete (r : Row) : Bool := !isBlankString r.field && !r.value.isEmpty

def toCondition (r : Row) : Condition :=
  ⟨stripped r.field, r.operator, r.value, some r.conjunction⟩

end Row

structure Form where
  object : String
  fields : List String
  rows : List Row
  sortField : String
  direction : Direction
  limitText : String
  /-- The text of the query as of the last change. -/
  text : String
deriving DecidableEq, Repr

namespace Form

/-- A limit as it is typed: a number of 32 bits that is not zero. -/
def readLimit? (typed : String) : Option UInt32 :=
  match Text.readNat? (Text.trim typed.toList) with
  | some n => if 0 < n ∧ n < UInt32.size then some (UInt32.ofNat n) else none
  | none => none

/-- The last condition joins nothing. -/
def endChain : List Condition → List Condition
  | [] => []
  | [c] => [{ c with conjunction := none }]
  | c :: d :: cs => c :: endChain (d :: cs)

/-- The conditions of the complete rows. -/
def conditions (f : Form) : List Condition :=
  endChain ((f.rows.filter Row.isComplete).map Row.toCondition)

def order (f : Form) : Option SortOrder :=
  if isBlankString f.sortField then none else some ⟨stripped f.sortField, f.direction⟩

/-- The query that the form describes. -/
def query (f : Form) : Query :=
  ⟨f.object, f.fields, f.conditions, f.order, readLimit? f.limitText⟩

def refresh (f : Form) : Form := { f with text := f.query.compile }

def new : Form := refresh ⟨"", [Query.defaultField], [], "", .ascending, "", ""⟩

def setObject (object : String) (f : Form) : Form := refresh { f with object }

/-- Selects fields; selecting none is selecting the default field. -/
def setFields (fields : List String) (f : Form) : Form :=
  refresh { f with fields := if fields.isEmpty then [Query.defaultField] else fields }

/-- Adds a row at the end. -/
def pushRow (row : Row) (f : Form) : Form := refresh { f with rows := f.rows ++ [row] }

def addRow (f : Form) : Form := f.pushRow .blank

/-- Puts another row in the place of one; none when there is no such place. -/
def updateRow? (index : Nat) (row : Row) (f : Form) : Option Form :=
  if index < f.rows.length then some (refresh { f with rows := f.rows.set index row }) else none

/-- Takes a row out; none when there is no such row. -/
def removeRow? (index : Nat) (f : Form) : Option (Row × Form) :=
  (f.rows[index]?).map fun row => (row, refresh { f with rows := f.rows.eraseIdx index })

def setSortField (sortField : String) (f : Form) : Form := refresh { f with sortField }

def setDirection (direction : Direction) (f : Form) : Form := refresh { f with direction }

def setLimit (limitText : String) (f : Form) : Form := refresh { f with limitText }

end Form

end Soql
