/-
# Classes of characters given as ranges

Key definitions: `inRanges`.
-/

namespace Soql.Text

/-- The number lies in one of the ranges, each given by its first and its last member. -/
def inRanges (table : List (Nat × Nat)) (n : Nat) : Bool :=
  table.any fun r => r.1 ≤ n && n ≤ r.2

end Soql.Text
