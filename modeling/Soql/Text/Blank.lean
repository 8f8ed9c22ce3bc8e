/-
# Blank characters

The characters that count as space around typed text: the 25 characters of the
Unicode property White_Space. Texts are trimmed of them at their ends and cut
into words at them.

Key definitions: `isBlank`, `trim`, `trimEnd`, `words`, `stripped`.
Key theorems: `trim_eq_nil_iff`, `stripped_eq_empty_iff`.
-/
import Soql.Text.Pieces

namespace Soql.Text

/-- The characters of the property White_Space. -/
def isBlank (c : Char) : Bool :=
  let n := c.toNat
  if n < 128 then n == 32 || (9 ≤ n && n ≤ 13)
  else n == 0x85 || n == 0xA0 || n == 0x1680 || (0x2000 ≤ n && n ≤ 0x200A) ||
    n == 0x2028 || n == 0x2029 || n == 0x202F || n == 0x205F || n == 0x3000

/-- A text of blank characters only, the empty one included. -/
def isBlankText (s : List Char) : Bool := s.all isBlank

def trimStart (s : List Char) : List Char := s.dropWhile isBlank

/-- The text without the blank characters at its end. -/
def trimEnd : List Char → List Char
  | [] => []
  | c :: s =>
    match trimEnd s with
    | [] => if isBlank c then [] else [c]
    | d :: r => c :: d :: r

def trim (s : List Char) : List Char := trimEnd (trimStart s)

/-- The maximal runs of characters that are not blank. -/
def words (s : List Char) : List (List Char) := (pieces isBlank s).filter (!·.isEmpty)

theorem isBlankText_cons (c : Char) (s : List Char) :
    isBlankText (c :: s) = (isBlank c && isBlankText s) := rfl

theorem trimEnd_eq_nil_iff : ∀ s : List Char, trimEnd s = [] ↔ isBlankText s = true
  | [] => by simp [trimEnd, isBlankText]
  | c :: s => by
    have ih := trimEnd_eq_nil_iff s
    rw [trimEnd, isBlankText_cons]
    split
    · rename_i h
      by_cases hc : isBlank c <;> simp [hc, ih.1 h]
    · rename_i d r h
      have : isBlankText s ≠ true := fun hs => by simp [ih.2 hs] at h
      simp [this]

/-- Trimming leaves nothing exactly of a blank text. -/
theorem trim_eq_nil_iff (s : List Char) : trim s = [] ↔ isBlankText s = true := by
  rw [trim, trimEnd_eq_nil_iff, trimStart]
  induction s with
  | nil => rfl
  | cons c s ih =>
    by_cases hc : isBlank c
    · simp [hc, ih, isBlankText_cons]
    · simp [hc, isBlankText_cons]

end Soql.Text

namespace Soql

open Text

/-- The text without the blank characters around it. -/
def stripped (s : String) : String := String.ofList (trim s.toList)

/-- A text that is empty or holds blank characters only. -/
def isBlankString (s : String) : Bool := isBlankText s.toList

theorem stripped_eq_empty_iff (s : String) : stripped s = "" ↔ isBlankString s = true := by
  rw [stripped, isBlankString, ← trim_eq_nil_iff, ← String.ofList_nil, String.ofList_inj]

end Soql
