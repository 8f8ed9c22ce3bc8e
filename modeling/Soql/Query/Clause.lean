/-
# The clause of a list of conditions

The active conditions are cut into runs between neighbours that are not joined by OR.
A run of several conditions stands in parentheses with OR between them, and the runs
have AND between them. OR therefore never stands beside an AND.

Key definitions: `orRuns`, `Condition.render`, `clause`.
Key theorems: `flatten_orRuns`, `ne_nil_of_mem_orRuns`.
-/
import Soql.Query.Condition
import Soql.Query.Literal

namespace Soql

def Condition.render (c : Condition) : String :=
  stripped c.field ++ " " ++ c.operator.symbol ++ " " ++ literal c.operator c.value

/-- Cuts a list of conditions after each one that does not join its neighbour by OR. -/
def orRuns : List Condition → List (List Condition)
  | [] => []
  | c :: cs =>
    match orRuns cs with
    | [] => [[c]]
    | run :: runs => if c.joinsOr then (c :: run) :: runs else [c] :: run :: runs

/-- One run: its only condition, or all of them as alternatives in parentheses. -/
def renderRun : List Condition → String
  | [c] => c.render
  | run => "(" ++ " OR ".intercalate (run.map Condition.render) ++ ")"

/-- The conditions as one expression; nothing when none is active. -/
def clause (cs : List Condition) : String :=
  " AND ".intercalate ((orRuns (activeConditions cs)).map renderRun)

theorem flatten_orRuns : ∀ cs : List Condition, (orRuns cs).flatten = cs
  | [] => rfl
  | c :: cs => by
    have ih := flatten_orRuns cs
    unfold orRuns
    split
    · rename_i h
      simp [h] at ih
      simp [← ih]
    · rename_i run runs h
      rw [h] at ih
      split <;> simpa using ih

theorem ne_nil_of_mem_orRuns : ∀ (cs run : List Condition), run ∈ orRuns cs → run ≠ []
  | [], run, h => by simp [orRuns] at h
  | c :: cs, run, h => by
    have ih := ne_nil_of_mem_orRuns cs
    unfold orRuns at h
    split at h
    · simp_all
    · rename_i r rs hr
      rw [hr] at ih
      split at h
      · rcases List.mem_cons.1 h with rfl | h
        · simp
        · exact ih run (by simp [h])
      · rcases List.mem_cons.1 h with rfl | h
        · simp
        · exact ih run h

end Soql
