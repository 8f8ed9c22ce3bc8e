/-
# The grammar of filters

A filter is a list of conditions with connectives between them. A condition is a field, an
operator and a value, with gaps where one likes. What a part of a filter may be depends on
the text `next` after it: a field and an operator in signs are as long as they can be, an
operator in letters needs a gap after it, and a value without quotes goes on to the first
connective or to the end.

The relations below cut a text into parts and say nothing about how a reader finds them.

Key definitions: `ConnectiveText`, `OperatorText`, `ValueText`, `ConditionText`, `FilterText`,
`ConditionsText`, `GoesOn`.
-/
import Soql.Query.Filter
import Soql.Proofs.Text.Separable

namespace Soql.Filter

open Text

/-- Gap characters, possibly none. -/
def MayGaps (g : List Char) : Prop := ∀ c ∈ g, isGap c = true

def Gaps (g : List Char) : Prop := g ≠ [] ∧ MayGaps g

/-- The text is the word, given in capitals, in letters of either case. -/
def Spells (word t : List Char) : Prop := t.map Char.toUpper = word

instance (word t : List Char) : Decidable (Spells word t) :=
  inferInstanceAs (Decidable (t.map Char.toUpper = word))

/-- A gap comes next. -/
def GapNext (s : List Char) : Prop := ∃ c r, s = c :: r ∧ isGap c = true

/-- AND or OR with gaps on both sides. -/
inductive ConnectiveText : List Char → Conjunction → Prop
  | mk {g w g' : List Char} {k : Conjunction} (before : Gaps g) (word : Spells k.word.toList w)
      (after : Gaps g') : ConnectiveText (g ++ (w ++ g')) k

def BeginsConnective (s : List Char) : Prop := ∃ t k r, ConnectiveText t k ∧ s = t ++ r

/-- The operators in signs. -/
def signs : List (List Char × Operator) :=
  [(['>', '='], .ge), (['<', '='], .le), (['!', '='], .ne), (['<', '>'], .ne), (['='], .eq),
    (['>'], .gt), (['<'], .lt)]

inductive OperatorText : List Char → Operator → List Char → Prop
  | sign {t next : List Char} {op : Operator} (mem : (t, op) ∈ signs)
      (longest : ∀ u ∈ signs, u.1 <+: t ++ next → u.1.length ≤ t.length) : OperatorText t op next
  | word {t next : List Char} {op : Operator} (kind : op = .like ∨ op = .isIn)
      (word : Spells op.symbol.toList t) (after : GapNext next) : OperatorText t op next
  | notIn {n g i next : List Char} (not : Spells ['N', 'O', 'T'] n) (between : Gaps g)
      (isIn : Spells ['I', 'N'] i) (after : GapNext next) : OperatorText (n ++ (g ++ i)) .notIn next

/-- No connective begins inside of the text `t` when `next` comes after it. -/
def NoConnectiveIn (t next : List Char) : Prop :=
  ∀ a b, t = a ++ b → b ≠ [] → ¬ BeginsConnective (b ++ next)

/-- The text `t` writes the value `v`. -/
inductive ValueText : List Char → List Char → List Char → Prop
  | quoted {q : Char} {v next : List Char} (quote : isQuote q = true) (inside : q ∉ v) :
      ValueText (q :: (v ++ [q])) v next
  | bare {t next : List Char} (first : ∀ c ∈ t.head?, isQuote c = false ∧ isGap c = false)
      (inside : NoConnectiveIn t next) (after : next = [] ∨ BeginsConnective next)
      (nonempty : trimEnd t ≠ []) : ValueText t (trimEnd t) next

inductive ConditionText : List Char → Condition → List Char → Prop
  | mk {f g o g' t v next : List Char} {op : Operator} (nonempty : f ≠ [])
      (field : ∀ c ∈ f, isFieldChar c = true)
      (longest : StopsAt isFieldChar (g ++ (o ++ (g' ++ (t ++ next)))))
      (between : MayGaps g) (operator : OperatorText o op (g' ++ (t ++ next)))
      (between' : MayGaps g') (value : ValueText t v next) :
      ConditionText (f ++ (g ++ (o ++ (g' ++ t)))) (.single (String.ofList f) op (String.ofList v))
        next

/-- The text is a filter with these conditions. -/
inductive FilterText : List Char → List Condition → Prop
  | last {t : List Char} {c : Condition} (condition : ConditionText t c []) : FilterText t [c]
  | more {t w s : List Char} {c : Condition} {k : Conjunction} {cs : List Condition}
      (condition : ConditionText t c (w ++ s)) (connective : ConnectiveText w k)
      (rest : FilterText s cs) : FilterText (t ++ (w ++ s)) (c.joinedBy (some k) :: cs)

/-- The text is conditions with connectives between them when `next` comes after it. -/
inductive ConditionsText : List Char → List Condition → List Char → Prop
  | last {t next : List Char} {c : Condition} (condition : ConditionText t c next) :
      ConditionsText t [c] next
  | more {t w s next : List Char} {c : Condition} {k : Conjunction} {cs : List Condition}
      (condition : ConditionText t c (w ++ (s ++ next))) (connective : ConnectiveText w k)
      (rest : ConditionsText s cs next) :
      ConditionsText (t ++ (w ++ s)) (c.joinedBy (some k) :: cs) next

def BeginsCondition (s : List Char) : Prop := ∃ t c r, ConditionText t c r ∧ s = t ++ r

/-- A connective and a whole condition come next. -/
def GoesOn (r : List Char) : Prop := ∃ w k s, ConnectiveText w k ∧ r = w ++ s ∧ BeginsCondition s

end Soql.Filter
