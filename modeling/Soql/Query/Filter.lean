/-
# Filters as they are typed

A filter is a list of conditions with AND or OR between them, each a field, an operator
and a value. A value stands between quotes, or it runs on to the next AND or OR that has
gaps on both sides. There are no parentheses.

Conditions are read as long as they are whole; what is left over then is an error, and
so is a text that does not begin with a whole condition.

Key definitions: `Filter.readOperator?`, `Filter.readValue`, `Filter.readCondition`,
`Filter.readConnective?`, `Filter.parse`.
-/
import Soql.Query.Condition
import Soql.Text.Alphanumeric

namespace Soql.Filter

open Text

/-- The characters of a field, with the point of a path among them. -/
def isFieldChar (c : Char) : Bool := isAlphanumeric c || c = '_' || c = '.'

/-- The blank characters that separate the parts of a filter. -/
def isGap (c : Char) : Bool := c = ' ' || c = '\t' || c = '\r' || c = '\n'

def isQuote (c : Char) : Bool := c = '\'' || c = '"'

def skipGaps (s : List Char) : List Char := s.dropWhile isGap

/-- The text after one gap or more. -/
def afterGaps? : List Char → Option (List Char)
  | [] => none
  | c :: s => if isGap c then some (skipGaps s) else none

/-- The text after a word, given in capitals and written in letters of either case. -/
def afterWord? : List Char → List Char → Option (List Char)
  | [], s => some s
  | _ :: _, [] => none
  | w :: ws, c :: s => if c.toUpper = w then afterWord? ws s else none

/-- The text after a word when a gap comes next. -/
def afterLoneWord? (word s : List Char) : Option (List Char) :=
  match afterWord? word s with
  | some (c :: r) => if isGap c then some (c :: r) else none
  | _ => none

/-- The text after NOT and IN with gaps between them and after them. -/
def afterNotIn? (s : List Char) : Option (List Char) :=
  (afterWord? ['N', 'O', 'T'] s).bind afterGaps? |>.bind (afterLoneWord? ['I', 'N'])

/-- An operator written in signs, the longest that fits. -/
def readSign? : List Char → Option (Operator × List Char)
  | '>' :: '=' :: s => some (.ge, s)
  | '<' :: '=' :: s => some (.le, s)
  | '!' :: '=' :: s => some (.ne, s)
  | '<' :: '>' :: s => some (.ne, s)
  | '=' :: s => some (.eq, s)
  | '>' :: s => some (.gt, s)
  | '<' :: s => some (.lt, s)
  | _ => none

/-- An operator, a word only when a gap follows it. -/
def readOperator? (s : List Char) : Option (Operator × List Char) :=
  match afterNotIn? s with
  | some r => some (.notIn, r)
  | none =>
    match afterLoneWord? ['L', 'I', 'K', 'E'] s with
    | some r => some (.like, r)
    | none =>
      match afterLoneWord? ['I', 'N'] s with
      | some r => some (.isIn, r)
      | none => readSign? s

/-- AND or OR with gaps on both sides. -/
def readConnective? (s : List Char) : Option (Conjunction × List Char) :=
  match afterGaps? s with
  | none => none
  | some s =>
    match afterWord? ['A', 'N', 'D'] s with
    | some r => (afterGaps? r).map (Conjunction.and, ·)
    | none => ((afterWord? ['O', 'R'] s).bind afterGaps?).map (Conjunction.or, ·)

/-- Cuts a text before the first AND or OR with gaps on both sides. -/
def cutAtConnective : List Char → List Char × List Char
  | [] => ([], [])
  | c :: s =>
    if (readConnective? (c :: s)).isSome then ([], c :: s)
    else (c :: (cutAtConnective s).1, (cutAtConnective s).2)

/-- The text up to the next quote of the kind `q`, and the text after that. -/
def cutAtQuote? (q : Char) : List Char → Option (List Char × List Char)
  | [] => none
  | c :: s => if c = q then some ([], s) else (cutAtQuote? q s).map fun (t, r) => (c :: t, r)

/-- A value, without its quotes or without the blanks at its end. -/
def readValue (s : List Char) : Except FilterFault (List Char × List Char) :=
  match s with
  | [] => .error (.noValue [])
  | c :: r =>
    if isQuote c then
      match cutAtQuote? c r with
      | some (value, r) => .ok (value, r)
      | none => .error (.openQuote s)
    else
      match trimEnd (cutAtConnective s).1 with
      | [] => .error (.noValue s)
      | value => .ok (value, (cutAtConnective s).2)

def readCondition (s : List Char) : Except FilterFault (Condition × List Char) := do
  let field := s.takeWhile isFieldChar
  if field.isEmpty then throw (.noField s)
  let s := skipGaps (s.dropWhile isFieldChar)
  let some (op, s) := readOperator? s | throw (.noOperator s)
  let (value, s) ← readValue (skipGaps s)
  return (.single (String.ofList field) op (String.ofList value), s)

/-- The conditions that follow a condition; `n` bounds their number. -/
def readMore : Nat → List Char → List (Conjunction × Condition) × List Char
  | 0, s => ([], s)
  | n + 1, s =>
    match readConnective? s with
    | none => ([], s)
    | some (k, r) =>
      match readCondition r with
      | .error _ => ([], s)
      | .ok (c, r) => ((k, c) :: (readMore n r).1, (readMore n r).2)

/-- Gives each condition the conjunction that stands before the next one. -/
def chain (c : Condition) : List (Conjunction × Condition) → List Condition
  | [] => [c]
  | (k, d) :: rest => { c with conjunction := some k } :: chain d rest

/-- The conditions at the start of a text, at least one, and what is left of it. -/
def readConditions (s : List Char) : Except FilterFault (List Condition × List Char) := do
  let (c, r) ← readCondition s
  return (chain c (readMore r.length r).1, (readMore r.length r).2)

/-- The conditions of a filter; a blank text has none. -/
def parse (text : String) : Except QueryError (List Condition) :=
  match trim text.toList with
  | [] => .ok []
  | s =>
    match readConditions s with
    | .error fault => .error (.badFilter fault)
    | .ok (cs, rest) =>
      match trim rest with
      | [] => .ok cs
      | unread => .error (.unreadFilter (String.ofList unread))

end Soql.Filter
