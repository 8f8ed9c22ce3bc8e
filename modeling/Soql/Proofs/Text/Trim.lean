/-
# What trimming and cutting keep

Trimming takes blank characters off the ends of a text and nothing else, and the pieces
of a text hold characters of the text only.

Key theorems: `isPrefix_trimEnd`, `exists_blanks_trimEnd`, `trimEnd_append_singleton`,
`eq_nil_of_suffix_trim`, `trim_eq_self`, `trim_eq_nil_or_ends`, `trim_trim`, `trim_padded`,
`exists_blanks_trim`, `mem_of_mem_trim`, `mem_of_mem_pieces`, `stripped_stripped`,
`stripped_padded`, `exists_blanks_stripped`.
-/
import Soql.Text.Blank

namespace Soql.Text

theorem isPrefix_trimEnd : ∀ s : List Char, trimEnd s <+: s
  | [] => List.prefix_refl []
  | c :: s => by
    have ih := isPrefix_trimEnd s
    rw [trimEnd]
    split
    · split
      · exact List.nil_prefix
      · exact (List.prefix_cons_inj c).2 List.nil_prefix
    · rename_i d r h
      rw [h] at ih
      exact (List.prefix_cons_inj c).2 ih

/-- Only blanks are taken off. -/
theorem exists_blanks_trimEnd : ∀ s : List Char, ∃ x, s = trimEnd s ++ x ∧ ∀ c ∈ x, isBlank c = true
  | [] => ⟨[], rfl, by simp⟩
  | c :: s => by
    obtain ⟨x, hs, hx⟩ := exists_blanks_trimEnd s
    rw [trimEnd]
    split
    · rename_i hnil
      rw [hnil, List.nil_append] at hs
      subst hs
      split
      · rename_i hc
        exact ⟨c :: s, rfl, List.forall_mem_cons.2 ⟨hc, hx⟩⟩
      · exact ⟨s, rfl, hx⟩
    · rename_i d r h
      rw [h] at hs
      exact ⟨x, by rw [List.cons_append, ← hs], hx⟩

theorem trimEnd_cons_of_ne_nil {c : Char} {s : List Char} (h : trimEnd s ≠ []) :
    trimEnd (c :: s) = c :: trimEnd s := by
  rw [trimEnd]
  split
  · rename_i hnil
    exact absurd hnil h
  · rename_i d r hs
    rw [hs]

/-- A text that does not end with a blank is kept. -/
theorem trimEnd_append_singleton {c : Char} (hc : isBlank c = false) :
    ∀ s : List Char, trimEnd (s ++ [c]) = s ++ [c]
  | [] => by simp [trimEnd, hc]
  | d :: s => by
    have ih := trimEnd_append_singleton hc s
    rw [List.cons_append, trimEnd_cons_of_ne_nil (by rw [ih]; simp), ih]

/-- A text without a blank at either end is kept. -/
theorem trim_eq_self {s t : List Char} {c : Char} (hs : s = t ++ [c]) (hc : isBlank c = false)
    (hfirst : ∀ d ∈ s.head?, isBlank d = false) : trim s = s := by
  have hstart : trimStart s = s := by
    cases s with
    | nil => rfl
    | cons d s => rw [trimStart, List.dropWhile_cons_of_neg (by rw [hfirst d rfl]; decide)]
  rw [trim, hstart, hs, trimEnd_append_singleton hc]

/-- What is trimmed at its end has no blank end left. -/
theorem trimEnd_eq_nil_or_append : ∀ s : List Char,
    trimEnd s = [] ∨ ∃ t c, trimEnd s = t ++ [c] ∧ isBlank c = false
  | [] => Or.inl rfl
  | c :: s => by
    rcases trimEnd_eq_nil_or_append s with h | ⟨t, d, h, hd⟩
    · rw [trimEnd, h]
      cases hc : isBlank c with
      | true => exact Or.inl rfl
      | false => exact Or.inr ⟨[], c, rfl, hc⟩
    · refine Or.inr ⟨c :: t, d, ?_, hd⟩
      rw [trimEnd_cons_of_ne_nil (by rw [h]; simp), h, List.cons_append]

theorem trimEnd_trimEnd (s : List Char) : trimEnd (trimEnd s) = trimEnd s := by
  rcases trimEnd_eq_nil_or_append s with h | ⟨t, c, h, hc⟩
  · rw [h]
    rfl
  · rw [h, trimEnd_append_singleton hc]

theorem head?_trimEnd {s : List Char} (h : trimEnd s ≠ []) : (trimEnd s).head? = s.head? := by
  obtain ⟨c, t, ht⟩ := List.exists_cons_of_ne_nil h
  obtain ⟨y, hy⟩ := isPrefix_trimEnd s
  rw [← congrArg List.head? hy, ht]
  rfl

theorem trimEnd_append_of_ne_nil {s : List Char} (h : trimEnd s ≠ []) :
    ∀ a : List Char, trimEnd (a ++ s) = a ++ trimEnd s
  | [] => rfl
  | c :: a => by
    have ih := trimEnd_append_of_ne_nil h a
    rw [List.cons_append, trimEnd_cons_of_ne_nil (by rw [ih]; simp [h]), ih, List.cons_append]

/-- A trimmed text is empty, or it has no blank at either end. -/
theorem trim_eq_nil_or_ends (s : List Char) : trim s = [] ∨
    (∀ d ∈ (trim s).head?, isBlank d = false) ∧ ∃ t c, trim s = t ++ [c] ∧ isBlank c = false := by
  refine (trimEnd_eq_nil_or_append (trimStart s)).imp_right fun hend => ⟨fun d hd => ?_, hend⟩
  have hnot := List.head?_dropWhile_not isBlank s
  have hne : trim s ≠ [] := fun hnil => by simp [hnil] at hd
  rw [← trimStart, ← head?_trimEnd hne, ← trim, Option.mem_def.1 hd] at hnot
  simpa using hnot

/-- Trimming a second time takes nothing off. -/
theorem trim_trim (s : List Char) : trim (trim s) = trim s := by
  rcases trim_eq_nil_or_ends s with hnil | ⟨hfirst, t, c, hend, hc⟩
  · rw [hnil]
    rfl
  · exact trim_eq_self hend hc hfirst

theorem trimEnd_append_blanks {y : List Char} (hy : isBlankText y = true) :
    ∀ s : List Char, trimEnd (s ++ y) = trimEnd s
  | [] => (trimEnd_eq_nil_iff y).2 hy
  | c :: s => by
    rw [List.cons_append, trimEnd, trimEnd_append_blanks hy s, trimEnd]

/-- Blanks around a text are taken off with its own. -/
theorem trim_padded {x y : List Char} (hx : isBlankText x = true) (hy : isBlankText y = true)
    (s : List Char) : trim (x ++ (s ++ y)) = trim s := by
  have hstart : trimStart (x ++ (s ++ y)) = trimStart (s ++ y) :=
    List.dropWhile_append_of_pos (List.all_eq_true.1 hx)
  rw [trim, hstart, ← trim]
  by_cases hs : isBlankText s = true
  · have hall : isBlankText (s ++ y) = true := by
      rw [isBlankText, List.all_append, Bool.and_eq_true]
      exact ⟨hs, hy⟩
    rw [(trim_eq_nil_iff _).2 hall, (trim_eq_nil_iff _).2 hs]
  · -- what is left of the text keeps its end, so only blanks are behind it
    have hne : (trimStart s).isEmpty = false := by
      rw [List.isEmpty_eq_false_iff]
      exact fun hnil => hs ((trim_eq_nil_iff s).1 (by rw [trim, hnil]; rfl))
    have hkept : trimStart (s ++ y) = trimStart s ++ y := by
      rw [trimStart, List.dropWhile_append, ← trimStart, if_neg (by rw [hne]; decide)]
    rw [trim, hkept, trimEnd_append_blanks hy, ← trim]

/-- Only blanks are taken off, at either end. -/
theorem exists_blanks_trim (s : List Char) :
    ∃ x y, s = x ++ (trim s ++ y) ∧ isBlankText x = true ∧ isBlankText y = true := by
  obtain ⟨y, hs, hy⟩ := exists_blanks_trimEnd (trimStart s)
  refine ⟨s.takeWhile isBlank, y, ?_, ?_, List.all_eq_true.2 hy⟩
  · rw [trim, ← hs]
    exact List.takeWhile_append_dropWhile.symm
  · exact List.all_takeWhile

/-- The end of a trimmed text is blank only when it is empty. -/
theorem eq_nil_of_suffix_trim {s r : List Char} (h : r <:+ trim s) (hr : trim r = []) : r = [] := by
  rcases List.eq_nil_or_concat r with rfl | ⟨r', c, rfl⟩
  · rfl
  · obtain ⟨a, ha⟩ := h
    have hblank : isBlank c = true := by
      rw [trim_eq_nil_iff, isBlankText, List.all_eq_true] at hr
      exact hr c (by simp)
    rcases trimEnd_eq_nil_or_append (trimStart s) with hnil | ⟨t, d, hd, hnot⟩
    · rw [trim, hnil] at ha
      exact absurd ha (by simp)
    · rw [trim, hd, List.concat_eq_append, ← List.append_assoc] at ha
      obtain ⟨-, hcd⟩ := List.append_inj' ha rfl
      rw [(List.cons.inj hcd).1, hnot] at hblank
      exact absurd hblank (by decide)

theorem mem_of_mem_trim {c : Char} {s : List Char} (h : c ∈ trim s) : c ∈ s :=
  (List.dropWhile_suffix isBlank).mem ((isPrefix_trimEnd _).mem h)

theorem pieces_of_not_mem {p : Char → Bool} : ∀ {s : List Char}, (∀ c ∈ s, p c = false) →
    pieces p s = [s]
  | [], _ => rfl
  | c :: s, h => by
    have ih := pieces_of_not_mem fun d hd => h d (List.mem_cons_of_mem _ hd)
    rw [pieces, h c List.mem_cons_self, ih]
    rfl

theorem mem_of_mem_pieces {p : Char → Bool} {c : Char} :
    ∀ {s w : List Char}, w ∈ pieces p s → c ∈ w → c ∈ s
  | [], w, hw, hc => by
    obtain rfl : w = [] := by simpa [pieces] using hw
    exact hc
  | d :: s, w, hw, hc => by
    rw [pieces] at hw
    split at hw
    · rcases List.mem_cons.1 hw with rfl | hw
      · exact absurd hc List.not_mem_nil
      · exact List.mem_cons_of_mem _ (mem_of_mem_pieces hw hc)
    · split at hw
      · rename_i h
        exact absurd h (pieces_ne_nil p s)
      · rename_i v vs hv
        rcases List.mem_cons.1 hw with rfl | hw
        · rcases List.mem_cons.1 hc with rfl | hc
          · exact List.mem_cons_self
          · exact List.mem_cons_of_mem _
              (mem_of_mem_pieces (by rw [hv]; exact List.mem_cons_self) hc)
        · exact List.mem_cons_of_mem _
            (mem_of_mem_pieces (by rw [hv]; exact List.mem_cons_of_mem _ hw) hc)

end Soql.Text

namespace Soql

open Text

theorem stripped_stripped (s : String) : stripped (stripped s) = stripped s := by
  rw [stripped, stripped, String.toList_ofList, trim_trim]

theorem stripped_padded {x y : String} (hx : isBlankString x = true) (hy : isBlankString y = true)
    (s : String) : stripped (x ++ s ++ y) = stripped s := by
  rw [stripped, String.toList_append, String.toList_append, List.append_assoc, trim_padded hx hy,
    stripped]

theorem exists_blanks_stripped (s : String) :
    ∃ x y, s = x ++ stripped s ++ y ∧ isBlankString x = true ∧ isBlankString y = true := by
  obtain ⟨x, y, hs, hx, hy⟩ := exists_blanks_trim s.toList
  refine ⟨String.ofList x, String.ofList y, ?_, ?_, ?_⟩
  · rw [stripped, ← String.ofList_append, ← String.ofList_append, List.append_assoc, ← hs,
      String.ofList_toList]
  · rwa [isBlankString, String.toList_ofList]
  · rwa [isBlankString, String.toList_ofList]

theorem isBlankString_stripped (s : String) : isBlankString (stripped s) = isBlankString s := by
  rw [Bool.eq_iff_iff, ← stripped_eq_empty_iff, ← stripped_eq_empty_iff, stripped_stripped]

theorem isBlankString_padded {x y : String} (hx : isBlankString x = true)
    (hy : isBlankString y = true) (s : String) :
    isBlankString (x ++ s ++ y) = isBlankString s := by
  rw [← isBlankString_stripped, stripped_padded hx hy, isBlankString_stripped]

end Soql
