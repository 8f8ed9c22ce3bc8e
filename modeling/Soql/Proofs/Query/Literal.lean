/-
# Which values stand bare

A value that begins with the mark of a variable stands bare in a query, and so does one that
writes a number: a sign or none, and digits of any script with at most one point among them.

Key definitions: `Numeral`, `SignedNumeral`, `StandsAlone`.
Key theorems: `isUnsignedNumber_iff`, `isNumberText_iff`, `isBare_iff`, `literal_eq_inQuotes_iff`.
-/
import Mathlib.Data.List.TakeWhile
import Soql.Proofs.Text.Separable
import Soql.Query.Literal

namespace Soql

open Text

/-- The text has digits only, possibly none. -/
def Digits (s : List Char) : Prop := ∀ c ∈ s, isDecimalDigit c = true

/-- Digits with at most one point among them, one digit at least. -/
inductive Numeral : List Char → Prop where
  | whole {s : List Char} (digits : Digits s) (nonempty : s ≠ []) : Numeral s
  | point {s t : List Char} (digits : Digits s) (places : Digits t) (nonempty : s ≠ [] ∨ t ≠ []) :
    Numeral (s ++ '.' :: t)

/-- A numeral, or one after a sign. -/
inductive SignedNumeral : List Char → Prop where
  | unsigned {s : List Char} (numeral : Numeral s) : SignedNumeral s
  | signed {c : Char} {s : List Char} (sign : c = '+' ∨ c = '-') (numeral : Numeral s) :
    SignedNumeral (c :: s)

/-- A value that names a variable or writes a number. -/
def StandsAlone (s : List Char) : Prop := s.head? = some variableMark ∨ SignedNumeral s

theorem isUnsignedNumber_iff {s : List Char} : isUnsignedNumber s = true ↔ Numeral s := by
  constructor
  · intro h
    have hdigits : Digits (s.takeWhile isDecimalDigit) := List.all_eq_true.1 List.all_takeWhile
    have hs := List.takeWhile_append_dropWhile (p := isDecimalDigit) (l := s)
    unfold isUnsignedNumber at h
    split at h
    · rename_i hnil
      rw [hnil, List.append_nil] at hs
      rw [hs] at h hdigits
      exact .whole hdigits (by simpa using h)
    · rename_i c places hcons
      simp only [Bool.and_eq_true, decide_eq_true_eq, List.all_eq_true] at h
      obtain ⟨⟨rfl, hplaces⟩, hne⟩ := h
      rw [hcons] at hs
      rw [← hs]
      refine .point hdigits hplaces ?_
      cases htake : s.takeWhile isDecimalDigit with
      | nil => exact .inr (by simpa [htake] using hne)
      | cons d ds => exact .inl (List.cons_ne_nil d ds)
  · intro h
    cases h with
    | whole digits nonempty =>
      have htake : s.takeWhile isDecimalDigit = s := List.takeWhile_eq_self_iff.2 digits
      have hdrop : s.dropWhile isDecimalDigit = [] := List.dropWhile_eq_nil_iff.2 digits
      simp [isUnsignedNumber, htake, hdrop, nonempty]
    | @point s t digits places nonempty =>
      have hstop : StopsAt isDecimalDigit ('.' :: t) := stopsAt_cons.2 (by decide)
      have htake : (s ++ '.' :: t).takeWhile isDecimalDigit = s := by
        rw [List.takeWhile_append_of_pos digits, takeWhile_of_stops hstop, List.append_nil]
      have hdrop : (s ++ '.' :: t).dropWhile isDecimalDigit = '.' :: t := by
        rw [List.dropWhile_append_of_pos digits, dropWhile_of_stops hstop]
      have hplaces : t.all isDecimalDigit = true := List.all_eq_true.2 places
      have hsome : (s.isEmpty && t.isEmpty) = false := by
        rcases nonempty with hs | ht
        · simp [hs]
        · simp [ht]
      simp only [isUnsignedNumber, htake, hdrop, hplaces, hsome]
      rfl

/-- A numeral begins with a digit or with a point. -/
theorem Numeral.head {c : Char} {s : List Char} (h : Numeral (c :: s)) :
    isDecimalDigit c = true ∨ c = '.' := by
  generalize hs : c :: s = t at h
  cases h with
  | whole digits _ => exact .inl (digits c (hs ▸ List.mem_cons_self))
  | @point a b digits _ _ =>
    cases a with
    | nil => exact .inr (List.cons.inj hs).1
    | cons d a => exact .inl ((List.cons.inj hs).1 ▸ digits d List.mem_cons_self)

theorem isNumberText_iff {s : List Char} : isNumberText s = true ↔ SignedNumeral s := by
  constructor
  · intro h
    unfold isNumberText at h
    split at h
    · exact absurd h (by decide)
    · split at h
      · rename_i hsign
        exact .signed (by simpa using hsign) (isUnsignedNumber_iff.1 h)
      · exact .unsigned (isUnsignedNumber_iff.1 h)
  · intro h
    cases h with
    | unsigned numeral =>
      cases s with
      | nil =>
        generalize hs : ([] : List Char) = t at numeral
        cases numeral with
        | whole _ nonempty => exact absurd hs.symm nonempty
        | point _ _ _ => simp at hs
      | cons c s =>
        have hsign : ¬(decide (c = '+') || decide (c = '-')) = true := by
          rw [Bool.or_eq_true, decide_eq_true_eq, decide_eq_true_eq]
          rintro (rfl | rfl) <;> exact absurd numeral.head (by decide)
        rw [isNumberText, if_neg hsign]
        exact isUnsignedNumber_iff.2 numeral
    | @signed c s sign numeral =>
      rw [isNumberText, if_pos (by simpa using sign)]
      exact isUnsignedNumber_iff.2 numeral

theorem isBare_iff {value : String} : isBare value = true ↔ StandsAlone value.toList := by
  rw [isBare, Bool.or_eq_true, beq_iff_eq, isNumberText_iff, StandsAlone]

instance (s : List Char) : Decidable (StandsAlone s) :=
  decidable_of_iff (isBare (String.ofList s) = true) (by rw [isBare_iff, String.toList_ofList])

theorem inQuotes_ne (s : String) : inQuotes s ≠ s := by
  intro h
  have hlength := congrArg (fun t : String => t.toList.length) h
  simp [inQuotes] at hlength
  omega

/-- The operators that take a value as one text. -/
def Operator.TakesText (op : Operator) : Prop := op ≠ .like ∧ op.takesList = false

instance (op : Operator) : Decidable op.TakesText := inferInstanceAs (Decidable (_ ∧ _))

theorem literal_of_takesText {op : Operator} (h : op.TakesText) (value : String) :
    literal op value = if isBare value then value else inQuotes value := by
  rw [literal, if_neg h.1, h.2, if_neg Bool.false_ne_true]

/-- One text stands between quotes when it does not stand alone, and bare when it does. -/
theorem literal_eq_inQuotes_iff {op : Operator} (h : op.TakesText) (value : String) :
    literal op value = inQuotes value ↔ ¬StandsAlone value.toList := by
  rw [literal_of_takesText h, ← isBare_iff]
  split
  · rename_i hbare
    exact ⟨fun heq => absurd heq.symm (inQuotes_ne value), fun hnot => absurd hbare hnot⟩
  · rename_i hbare
    exact ⟨fun _ => hbare, fun _ => rfl⟩

theorem literal_of_standsAlone {op : Operator} (h : op.TakesText) {value : String}
    (hvalue : StandsAlone value.toList) : literal op value = value := by
  rw [literal_of_takesText h, if_pos (isBare_iff.2 hvalue)]

end Soql
