/-
# Cutting a text at its separators

A text is cut at every character of a class. A text with n separators has n + 1
pieces, some of them possibly empty, and the pieces with the separators between
them are the text again.

Key definitions: `pieces`.
Key theorems: `pieces_ne_nil`, `not_of_mem_pieces`, `pieces_append_sep`.
-/

namespace Soql.Text

/-- The runs between the characters of class `p`. -/
def pieces (p : Char → Bool) : List Char → List (List Char)
  | [] => [[]]
  | c :: s =>
    if p c then [] :: pieces p s
    else
      match pieces p s with
      | [] => [[c]]
      | w :: ws => (c :: w) :: ws

theorem pieces_ne_nil (p : Char → Bool) : ∀ s : List Char, pieces p s ≠ []
  | [] => by simp [pieces]
  | c :: s => by
    unfold pieces
    split
    · simp
    · split <;> simp

/-- No piece holds a separator. -/
theorem not_of_mem_pieces (p : Char → Bool) :
    ∀ s : List Char, ∀ w ∈ pieces p s, ∀ c ∈ w, p c = false
  | [], w, hw => by
    have : w = [] := by simpa [pieces] using hw
    simp [this]
  | c :: s, w, hw => by
    have ih := not_of_mem_pieces p s
    unfold pieces at hw
    split at hw
    · rcases List.mem_cons.1 hw with rfl | hw
      · simp
      · exact ih w hw
    · rename_i hc
      have hc : p c = false := by simpa using hc
      split at hw
      · rename_i h
        exact absurd h (pieces_ne_nil p s)
      · rename_i v vs hv
        rcases List.mem_cons.1 hw with rfl | hw
        · intro x hx
          rcases List.mem_cons.1 hx with rfl | hx
          · exact hc
          · exact ih v (by simp [hv]) x hx
        · exact ih w (by simp [hv, hw])

/-- A separator ends one piece and begins the next. -/
theorem pieces_append_sep (p : Char → Bool) {sep : Char} (hsep : p sep = true) :
    ∀ a b : List Char, pieces p (a ++ sep :: b) = pieces p a ++ pieces p b
  | [], b => by simp [pieces, hsep]
  | c :: a, b => by
    have ih := pieces_append_sep p hsep a b
    by_cases hc : p c
    · simp [pieces, hc, ih]
    · simp only [List.cons_append, pieces, hc, ih]
      cases h : pieces p a with
      | nil => exact absurd h (pieces_ne_nil p a)
      | cons w ws => simp

end Soql.Text
