/-
# A value printed on one line

Strings keep their control characters behind escapes and numbers have none, so a value that
is printed without gaps holds no control character, and no line feed in particular.

Key definitions: `Json.Printed`.
Key theorems: `Json.printed_compact`.
-/
import Soql.Proofs.Json.ReadBack

namespace Soql.Json

open Text

/-- There are no control characters in the text. -/
def Printed (t : List Char) : Prop := ∀ c ∈ t, ¬c.toNat < 0x20

variable {t u : List Char}

theorem Printed.cons {c : Char} (hc : ¬c.toNat < 0x20) (ht : Printed t) : Printed (c :: t) :=
  List.forall_mem_cons.2 ⟨hc, ht⟩

theorem Printed.append (ht : Printed t) (hu : Printed u) : Printed (t ++ u) :=
  List.forall_mem_append.2 ⟨ht, hu⟩

theorem printed_nil : Printed [] := nofun

theorem printed_of_all (h : t.all (fun c => decide (0x20 ≤ c.toNat)) = true) : Printed t := by
  intro c hc
  have := List.all_eq_true.1 h c hc
  rw [decide_eq_true_eq] at this
  omega

/-! ### Strings and numbers -/

theorem le_toNat {c d : Char} (h : c ≤ d) : c.toNat ≤ d.toNat :=
  UInt32.le_iff_toNat_le.1 (Char.le_def.1 h)

theorem not_control_of_le {c d : Char} (h : d ≤ c) (hd : ¬d.toNat < 0x20) : ¬c.toNat < 0x20 := by
  have := le_toNat h
  omega

theorem not_control_of_isDigit {c : Char} (h : c.isDigit = true) : ¬c.toNat < 0x20 := by
  rw [Char.isDigit, Bool.and_eq_true, decide_eq_true_eq] at h
  exact not_control_of_le (d := '0') h.1 (by decide)

theorem not_control_of_hexValue {c : Char} {n : Nat} (h : hexValue? c = some n) :
    ¬c.toNat < 0x20 := by
  unfold hexValue? at h
  split at h
  · rename_i hd
    exact not_control_of_isDigit hd
  · split at h
    · rename_i hc
      exact not_control_of_le hc.1 (by decide)
    · rw [Option.ite_none_right_eq_some] at h
      exact not_control_of_le h.1.1 (by decide)

theorem printed_hexText {n : Nat} (h : HexText t n) : Printed t := by
  obtain ⟨h₁, h₂, h₃, h₄⟩ := h
  exact .cons (not_control_of_hexValue h₁) (.cons (not_control_of_hexValue h₂)
    (.cons (not_control_of_hexValue h₃) (.cons (not_control_of_hexValue h₄) printed_nil)))

theorem printed_charText {c : Char} (h : CharText t c) : Printed t := by
  cases h with
  | plain quote backslash control => exact .cons control printed_nil
  | @short e _ escape =>
    have he : ∀ p ∈ shortEscapes, ¬p.1.toNat < 0x20 := by simp [shortEscapes]
    exact .cons (by decide) (.cons (he _ escape) printed_nil)
  | number digits => exact .cons (by decide) (.cons (by decide) (printed_hexText digits))
  | pair digits digits' first second value =>
    exact .cons (by decide) (.cons (by decide) ((printed_hexText digits).append
      (.cons (by decide) (.cons (by decide) (printed_hexText digits')))))

theorem printed_stringText {s : List Char} (h : StringText t s) : Printed t := by
  induction h with
  | nil => exact printed_nil
  | cons first _ ih => exact (printed_charText first).append ih

theorem printed_of_isDigits (h : IsDigits t) : Printed t := fun c hc =>
  not_control_of_isDigit (h.2 c hc)

theorem printed_unsignedText (h : UnsignedText t) : Printed t := by
  obtain ⟨whole, fraction, exponent, -⟩ := h
  refine (printed_of_isDigits whole.1).append (.append ?_ ?_)
  · cases fraction with
    | nil => exact printed_nil
    | point digits => exact .cons (by decide) (printed_of_isDigits digits)
  · cases exponent with
    | nil => exact printed_nil
    | @mark e sign ds letter known digits =>
      have hsign : Printed sign := by
        simp only [List.mem_cons, List.not_mem_nil, or_false] at known
        rcases known with rfl | rfl | rfl
        · exact printed_nil
        · exact .cons (by decide) printed_nil
        · exact .cons (by decide) printed_nil
      exact .cons (by rcases letter with rfl | rfl <;> decide)
        (hsign.append (printed_of_isDigits digits))

theorem printed_floatText (h : FloatText t) : Printed t := by
  cases h with
  | plus number => exact printed_unsignedText number
  | minus number => exact .cons (by decide) (printed_unsignedText number)

theorem printed_int (n : Int) : Printed (toString n).toList := by
  cases n with
  | ofNat m =>
    rw [toList_ofNat]
    exact printed_of_isDigits (isDigits_toDigits m)
  | negSucc m =>
    rw [toList_negSucc]
    exact .cons (by decide) (printed_of_isDigits (isDigits_toDigits (m + 1)))

theorem printed_escaped (s : String) : Printed (escaped s).toList := by
  rw [← List.append_nil (escaped s).toList, toList_escaped]
  exact .cons (by decide) ((printed_stringText (stringText_flatMap s.toList)).append
    (.cons (by decide) printed_nil))

/-! ### Values -/

mutual

theorem printed_spell (level : Nat) : ∀ v, Printed (spell .tight level v)
  | .null => printed_of_all (by rfl)
  | .bool true => printed_of_all (by rfl)
  | .bool false => printed_of_all (by rfl)
  | .int n => by
    rw [spell]
    exact printed_int n
  | .real x => by
    rw [spell]
    exact printed_floatText (floatText_text x)
  | .str s => by
    rw [spell]
    exact printed_escaped s
  | .arr [] => printed_of_all (by rfl)
  | .arr (v :: vs) => by
    rw [spell]
    exact .cons (by decide) ((printed_spell (level + 1) v).append (printed_spellItems level vs))
  | .obj [] => printed_of_all (by rfl)
  | .obj (m :: ms) => by
    rw [spell]
    exact .cons (by decide) ((printed_spellMember (level + 1) m).append
      (printed_spellMembers level ms))

theorem printed_spellItems (level : Nat) : ∀ vs, Printed (spellItems .tight level vs)
  | [] => .cons (by decide) printed_nil
  | v :: vs => by
    rw [spellItems]
    exact .cons (by decide) ((printed_spell (level + 1) v).append (printed_spellItems level vs))

theorem printed_spellMember (level : Nat) : ∀ m, Printed (spellMember .tight level m)
  | (name, v) => by
    rw [spellMember]
    exact (printed_escaped name).append (.cons (by decide) (printed_spell level v))

theorem printed_spellMembers (level : Nat) : ∀ ms, Printed (spellMembers .tight level ms)
  | [] => .cons (by decide) printed_nil
  | m :: ms => by
    rw [spellMembers]
    exact .cons (by decide) ((printed_spellMember (level + 1) m).append
      (printed_spellMembers level ms))

end

/-- A value on one line holds no control characters. -/
theorem printed_compact (v : Json) : Printed (compact v).toList := by
  rw [toList_compact 0 v]
  exact printed_spell 0 v

end Soql.Json
