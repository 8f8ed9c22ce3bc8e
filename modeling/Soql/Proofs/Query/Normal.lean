/-
# What a query says

Queries that are described differently can say the same: blanks around names, conditions
that are not active, and the conjunction of the last condition do not matter. The normal
form of a query keeps what matters, and the text of the query is the text of its normal
form.

Conditions are kept as comparisons in their order, together with one truth value for every
two neighbours, which says whether they are alternatives. The runs of alternatives are cut
from these by `runsOf`.

Key definitions: `Comparison`, `runsOf`, `Normal`, `Query.normal`, `Normal.compile`.
Key theorems: `runsOf_inj`, `orRuns_map`, `compile_normal`.
-/
import Soql.Query.Basic

namespace Soql

/-- The value of a condition: one text, or the items of a list. -/
inductive Operand where
  | text (value : String)
  | items (values : List String)
deriving DecidableEq, Repr

/-- What an active condition says. -/
structure Comparison where
  field : String
  operator : Operator
  operand : Operand
deriving DecidableEq, Repr

namespace Comparison

def operandText (op : Operator) : Operand → String
  | .text value =>
    if op = .like then inQuotes ("%" ++ value ++ "%")
    else if isBare value then value
    else inQuotes value
  | .items values => "(" ++ ", ".intercalate (values.map inQuotes) ++ ")"

def render (c : Comparison) : String :=
  c.field ++ " " ++ c.operator.symbol ++ " " ++ operandText c.operator c.operand

end Comparison

namespace Condition

def operand (c : Condition) : Operand :=
  if c.operator.takesList then .items (listItems c.value) else .text c.value

def comparison (c : Condition) : Comparison := ⟨stripped c.field, c.operator, c.operand⟩

theorem render_comparison (c : Condition) : c.comparison.render = c.render := by
  have hlit : Comparison.operandText c.operator c.operand = literal c.operator c.value := by
    unfold operand literal
    cases c.operator <;> rfl
  rw [Comparison.render, comparison, hlit, render]

end Condition

/-! ### Runs of alternatives -/

section Runs

variable {α β : Type}

/-- Cuts a list between the neighbours that are not joined. -/
def runsOf : List α → List Bool → List (List α)
  | [], _ => []
  | x :: xs, joins =>
    match runsOf xs joins.tail with
    | [] => [[x]]
    | run :: runs => if joins.head? = some true then (x :: run) :: runs else [x] :: run :: runs

/-- Whether neighbours are alternatives, from left to right. -/
def joinsOf (cs : List Condition) : List Bool := cs.dropLast.map Condition.joinsOr

theorem runsOf_cons_ne_nil (x : α) (xs : List α) (joins : List Bool) :
    runsOf (x :: xs) joins ≠ [] := by
  rw [runsOf]
  split
  · simp
  · split <;> simp

/-- The first run begins with the first element. -/
theorem runsOf_cons (x : α) (xs : List α) (joins : List Bool) :
    ∃ run runs, runsOf (x :: xs) joins = (x :: run) :: runs := by
  rw [runsOf]
  split
  · exact ⟨[], [], rfl⟩
  · split
    · exact ⟨_, _, rfl⟩
    · exact ⟨_, _, rfl⟩

theorem runsOf_eq_nil {xs : List α} {joins : List Bool} (h : runsOf xs joins = []) : xs = [] := by
  cases xs with
  | nil => rfl
  | cons x xs => exact absurd h (runsOf_cons_ne_nil x xs joins)

theorem flatten_runsOf : ∀ (xs : List α) (joins : List Bool), (runsOf xs joins).flatten = xs
  | [], _ => rfl
  | x :: xs, joins => by
    have ih := flatten_runsOf xs joins.tail
    rw [runsOf]
    split
    · rename_i h
      rw [h] at ih
      simp [← ih]
    · rename_i run runs h
      rw [h] at ih
      split <;> simpa using ih

theorem ne_nil_of_mem_runsOf {run : List α} :
    ∀ {xs : List α} {joins : List Bool}, run ∈ runsOf xs joins → run ≠ []
  | [], _, h => absurd h List.not_mem_nil
  | x :: xs, joins, h => by
    rw [runsOf] at h
    split at h
    · rw [List.mem_singleton.1 h]
      exact List.cons_ne_nil _ _
    · rename_i hruns
      split at h
      · rcases List.mem_cons.1 h with rfl | h
        · exact List.cons_ne_nil _ _
        · exact ne_nil_of_mem_runsOf (by rw [hruns]; exact List.mem_cons_of_mem _ h)
      · rcases List.mem_cons.1 h with rfl | h
        · exact List.cons_ne_nil _ _
        · exact ne_nil_of_mem_runsOf (by rw [hruns]; exact h)

/-- An element before others goes into their first run, or it is a run of its own. -/
theorem runsOf_cons_of_eq {x : α} {xs run : List α} {runs : List (List α)} {j : Bool}
    {js : List Bool} (h : runsOf xs js = run :: runs) :
    runsOf (x :: xs) (j :: js) = if j then (x :: run) :: runs else [x] :: run :: runs := by
  rw [runsOf, List.tail_cons, h]
  cases j <;> rfl

/-- The runs tell the elements and how they are joined. -/
theorem runsOf_inj : ∀ {xs ys : List α} {js ks : List Bool}, js.length = xs.length - 1 →
    ks.length = ys.length - 1 → runsOf xs js = runsOf ys ks → xs = ys ∧ js = ks
  | [], ys, js, ks, hj, hk, h => by
    obtain rfl : ys = [] := runsOf_eq_nil h.symm
    exact ⟨rfl, by rw [List.length_eq_zero_iff.1 hj, List.length_eq_zero_iff.1 hk]⟩
  | x :: xs, [], js, ks, _, _, h => absurd h (runsOf_cons_ne_nil x xs js)
  | [x], [y], js, ks, hj, hk, h => by
    rw [List.length_eq_zero_iff.1 hj, List.length_eq_zero_iff.1 hk]
    simpa [runsOf] using h
  | [x], y :: y' :: ys, js, ks, _, _, h => by
    have := congrArg List.flatten h
    rw [flatten_runsOf, flatten_runsOf] at this
    simp at this
  | x :: x' :: xs, [y], js, ks, _, _, h => by
    have := congrArg List.flatten h
    rw [flatten_runsOf, flatten_runsOf] at this
    simp at this
  | x :: x' :: xs, y :: y' :: ys, j :: js, k :: ks, hj, hk, h => by
    obtain ⟨run, runs, hx⟩ := runsOf_cons x' xs js
    obtain ⟨run', runs', hy⟩ := runsOf_cons y' ys ks
    have ih := @runsOf_inj (x' :: xs) (y' :: ys) js ks (by simpa using hj) (by simpa using hk)
    rw [runsOf_cons_of_eq hx, runsOf_cons_of_eq hy] at h
    rw [hx, hy] at ih
    -- a joined run is longer than one that is cut after its first element
    cases j <;> cases k <;> simp only [Bool.false_eq_true, reduceIte, List.cons.injEq] at h
    · obtain ⟨⟨rfl, -⟩, hrun, rfl⟩ := h
      obtain ⟨hxs, rfl⟩ := ih (by rw [List.cons.injEq, List.cons.injEq]; exact ⟨hrun, rfl⟩)
      exact ⟨by rw [hxs], rfl⟩
    · exact absurd h.1.2 (by simp)
    · exact absurd h.1.2 (by simp)
    · obtain ⟨⟨rfl, hrun⟩, rfl⟩ := h
      obtain ⟨hxs, rfl⟩ := ih (by rw [List.cons.injEq, List.cons.injEq]; exact ⟨hrun, rfl⟩)
      exact ⟨by rw [hxs], rfl⟩

/-- The runs of conditions, seen through a function, are cut where the conditions are. -/
theorem orRuns_map (f : Condition → β) : ∀ cs : List Condition,
    (orRuns cs).map (List.map f) = runsOf (cs.map f) (joinsOf cs)
  | [] => rfl
  | [c] => rfl
  | c :: d :: cs => by
    have ih := orRuns_map f (d :: cs)
    rw [orRuns, List.map_cons, runsOf]
    simp only [joinsOf, List.dropLast_cons_cons, List.map_cons, List.tail_cons, List.head?_cons,
      Option.some.injEq] at ih ⊢
    rw [← ih]
    cases h : orRuns (d :: cs) with
    | nil => rfl
    | cons run runs =>
      simp only [List.map_cons]
      split <;> rfl

end Runs

/-! ### The normal form -/

structure Normal where
  selected : List String
  object : String
  comparisons : List Comparison
  /-- Whether two neighbours are alternatives, from left to right. -/
  joins : List Bool
  sorting : Option SortOrder
  rowLimit : Option UInt32
deriving DecidableEq, Repr

namespace Normal

/-- One run: its only comparison, or all of them as alternatives in parentheses. -/
def renderRun : List Comparison → String
  | [c] => c.render
  | run => "(" ++ " OR ".intercalate (run.map Comparison.render) ++ ")"

def clause (n : Normal) : String :=
  " AND ".intercalate ((runsOf n.comparisons n.joins).map renderRun)

def compile (n : Normal) : String :=
  "SELECT " ++ ", ".intercalate n.selected ++ " FROM " ++ n.object ++
    Query.part " WHERE " n.clause ++ Query.renderOrder n.sorting ++ Query.renderLimit n.rowLimit

theorem renderRun_map (run : List Condition) :
    renderRun (run.map Condition.comparison) = Soql.renderRun run := by
  have hmap : (run.map Condition.comparison).map Comparison.render = run.map Condition.render := by
    rw [List.map_map]
    exact List.map_congr_left fun c _ => c.render_comparison
  match run, hmap with
  | [], _ => rfl
  | [c], _ => exact c.render_comparison
  | c :: d :: run, hmap =>
    rw [Soql.renderRun, ← hmap]
    · rfl
    · simp

end Normal

/-- What a query says. -/
def Query.normal (q : Query) : Normal where
  selected := q.selected
  object := q.objectName
  comparisons := (activeConditions q.conditions).map Condition.comparison
  joins := joinsOf (activeConditions q.conditions)
  sorting := q.sorting
  rowLimit := q.rowLimit

theorem Query.length_joins_normal (q : Query) :
    q.normal.joins.length = q.normal.comparisons.length - 1 := by
  simp [Query.normal, joinsOf]

theorem Query.clause_normal (q : Query) : q.normal.clause = clause q.conditions := by
  have hruns : (runsOf q.normal.comparisons q.normal.joins).map Normal.renderRun =
      (orRuns (activeConditions q.conditions)).map renderRun := by
    rw [Query.normal, ← orRuns_map, List.map_map]
    exact List.map_congr_left fun run _ => Normal.renderRun_map run
  rw [Normal.clause, hruns, clause]

/-- A query has the text of its normal form. -/
theorem Query.compile_normal (q : Query) : q.normal.compile = q.compile := by
  rw [Normal.compile, q.clause_normal]
  rfl

end Soql
