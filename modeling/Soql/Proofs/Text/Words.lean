/-
# Where the pieces of a text stand

A piece of a text is what stands in it between two separators, or between one and an end. So the
words of a text are what stands in it between blanks.

Key theorems: `pieces_cases`, `mem_pieces_iff`, `mem_words_iff`, `head?_words`,
`getLast?_words`.
-/
import Soql.Proofs.Text.Trim

namespace Soql.Text

variable {p : Char → Bool} {s w a b : List Char}

/-- A text without a separator is its only piece; else the first piece ends with the first one. -/
theorem pieces_cases (p : Char → Bool) (s : List Char) :
    ((∀ c ∈ s, p c = false) ∧ pieces p s = [s]) ∨
      ∃ u d r, s = u ++ d :: r ∧ p d = true ∧ pieces p s = u :: pieces p r := by
  have hrun : ∀ c ∈ s.takeWhile (!p ·), p c = false := fun c hc => by
    simpa using List.all_eq_true.1 List.all_takeWhile c hc
  have hs : s = s.takeWhile (!p ·) ++ s.dropWhile (!p ·) := List.takeWhile_append_dropWhile.symm
  cases hrest : s.dropWhile (!p ·) with
  | nil =>
    rw [hrest, List.append_nil] at hs
    rw [← hs] at hrun
    exact .inl ⟨hrun, pieces_of_not_mem hrun⟩
  | cons d r =>
    have hd : p d = true := by
      have hnot := List.head?_dropWhile_not (!p ·) s
      rw [hrest] at hnot
      simpa using hnot
    rw [hrest] at hs
    generalize s.takeWhile (!p ·) = u at hs hrun
    refine .inr ⟨u, d, r, hs, hd, ?_⟩
    rw [hs, pieces_append_sep p hd, pieces_of_not_mem hrun, List.singleton_append]

theorem exists_cut_of_mem_pieces : ∀ {s : List Char}, w ∈ pieces p s →
    ∃ a b, s = a ++ (w ++ b) ∧ (∀ c ∈ a.getLast?, p c = true) ∧ ∀ c ∈ b.head?, p c = true
  | s, hw => by
    rcases pieces_cases p s with ⟨-, hs⟩ | ⟨u, d, r, rfl, hd, hs⟩
    · rw [hs] at hw
      obtain rfl := List.mem_singleton.1 hw
      exact ⟨[], [], by simp, by simp, by simp⟩
    · rw [hs] at hw
      rcases List.mem_cons.1 hw with rfl | hw
      · exact ⟨[], d :: r, rfl, by simp, by simpa using hd⟩
      · obtain ⟨a, b, rfl, ha, hb⟩ := exists_cut_of_mem_pieces hw
        refine ⟨u ++ d :: a, b, by simp, fun c hc => ?_, hb⟩
        rw [List.getLast?_append, List.getLast?_cons] at hc
        cases hlast : a.getLast? with
        | none =>
          rw [hlast] at hc
          obtain rfl := Option.some.inj hc
          exact hd
        | some e =>
          rw [hlast] at hc
          obtain rfl := Option.some.inj hc
          exact ha _ hlast
termination_by s => s.length

/-- A text without a separator that stands at the start, up to one or to the end, is the first
piece. -/
theorem pieces_append_of_not_mem (hw : ∀ c ∈ w, p c = false) (hb : ∀ c ∈ b.head?, p c = true) :
    ∃ l, pieces p (w ++ b) = w :: l := by
  cases b with
  | nil => exact ⟨[], by rw [List.append_nil, pieces_of_not_mem hw]⟩
  | cons d b =>
    exact ⟨pieces p b, by
      rw [pieces_append_sep p (hb d rfl), pieces_of_not_mem hw, List.singleton_append]⟩

/-- What comes after a separator is cut by itself. -/
theorem pieces_append_of_getLast? (ha : ∀ c ∈ a.getLast?, p c = true) (s : List Char) :
    ∃ l, pieces p (a ++ s) = l ++ pieces p s := by
  rcases List.eq_nil_or_concat a with rfl | ⟨a, d, rfl⟩
  · exact ⟨[], rfl⟩
  · rw [List.concat_eq_append] at ha ⊢
    exact ⟨pieces p a, by
      rw [List.append_assoc, List.singleton_append, pieces_append_sep p (ha d (by simp))]⟩

/-- A piece is a text without a separator that stands between two of them, or at an end. -/
theorem mem_pieces_iff : w ∈ pieces p s ↔ (∀ c ∈ w, p c = false) ∧
    ∃ a b, s = a ++ (w ++ b) ∧ (∀ c ∈ a.getLast?, p c = true) ∧ ∀ c ∈ b.head?, p c = true := by
  constructor
  · intro hw
    exact ⟨not_of_mem_pieces p s w hw, exists_cut_of_mem_pieces hw⟩
  · rintro ⟨hw, a, b, rfl, ha, hb⟩
    obtain ⟨l, hl⟩ := pieces_append_of_getLast? ha (w ++ b)
    obtain ⟨l', hl'⟩ := pieces_append_of_not_mem hw hb
    rw [hl, hl']
    exact List.mem_append_right l List.mem_cons_self

/-! ### Words -/

/-- A word stands between blanks, or at an end. -/
theorem mem_words_iff : w ∈ words s ↔ w ≠ [] ∧ (∀ c ∈ w, isBlank c = false) ∧
    ∃ a b, s = a ++ (w ++ b) ∧ (∀ c ∈ a.getLast?, isBlank c = true) ∧
      ∀ c ∈ b.head?, isBlank c = true := by
  rw [words, List.mem_filter, mem_pieces_iff, and_comm]
  simp

theorem head?_words (hne : w ≠ []) (hw : ∀ c ∈ w, isBlank c = false)
    (hb : ∀ c ∈ b.head?, isBlank c = true) : (words (w ++ b)).head? = some w := by
  obtain ⟨l, hl⟩ := pieces_append_of_not_mem hw hb
  rw [words, hl, List.filter_cons_of_pos (by simpa using hne), List.head?_cons]

theorem getLast?_words (hne : w ≠ []) (hw : ∀ c ∈ w, isBlank c = false)
    (ha : ∀ c ∈ a.getLast?, isBlank c = true) : (words (a ++ w)).getLast? = some w := by
  obtain ⟨l, hl⟩ := pieces_append_of_getLast? ha w
  rw [words, hl, pieces_of_not_mem hw, List.filter_append,
    List.filter_cons_of_pos (by simpa using hne), List.filter_nil, List.getLast?_concat]

end Soql.Text
