/-
# Numbers in the digits of a script

A value stands bare in a query when it writes a number, in the digits of whatever script. So only
variables and numbers in ASCII digits stand bare as long as the text has no digit of another script
(`literal_eq_self_iff`). With such a digit a text can stand bare that is no number in the query
language (`foreignNumber_bare`).

Key definitions: `UnsignedIn`, `NumberIn`, `IsForeignDigit`.
Key theorems: `numeral_iff`, `signedNumeral_iff`, `numberIn_isDigit_iff`, `literal_eq_self_iff`,
`foreignNumber_bare`.
-/
import Mathlib.Data.List.Count
import Soql.Proofs.Query.Literal

namespace Soql

open Text

/-- Digits of a class and at most one point, with one digit at least. -/
structure UnsignedIn (digit : Char → Bool) (s : List Char) : Prop where
  chars : ∀ c ∈ s, digit c = true ∨ c = '.'
  onePoint : s.count '.' ≤ 1
  hasDigit : ∃ c ∈ s, digit c = true

/-- Digits of a class and at most one point, with one digit at least, after a sign or none. -/
inductive NumberIn (digit : Char → Bool) : List Char → Prop where
  | unsigned {s : List Char} (number : UnsignedIn digit s) : NumberIn digit s
  | signed {c : Char} {s : List Char} (sign : c = '+' ∨ c = '-') (number : UnsignedIn digit s) :
    NumberIn digit (c :: s)

/-- A digit of another script than ASCII. -/
def IsForeignDigit (c : Char) : Prop := isDecimalDigit c = true ∧ c.isDigit = false

instance (c : Char) : Decidable (IsForeignDigit c) := inferInstanceAs (Decidable (_ ∧ _))

variable {s : List Char} {digit digit' : Char → Bool}

theorem isDecimalDigit_of_isDigit {c : Char} (h : c.isDigit = true) : isDecimalDigit c = true := by
  obtain ⟨hvalue, hle⟩ := digitValue_of_isDigit h
  have hlt : c.toNat < 128 := by omega
  rw [isDecimalDigit, if_pos hlt, h]

theorem Digits.not_mem_point (h : Digits s) : '.' ∉ s := fun hmem =>
  absurd (h '.' hmem) (by decide)

theorem Numeral.unsignedIn (h : Numeral s) : UnsignedIn isDecimalDigit s := by
  cases h with
  | whole digits nonempty =>
    obtain ⟨c, s, rfl⟩ := List.exists_cons_of_ne_nil nonempty
    refine ⟨fun d hd => .inl (digits d hd), ?_, c, List.mem_cons_self,
      digits c List.mem_cons_self⟩
    rw [List.count_eq_zero_of_not_mem digits.not_mem_point]
    exact Nat.zero_le 1
  | @point a b digits places nonempty =>
    refine ⟨?_, ?_, ?_⟩
    · rw [List.forall_mem_append, List.forall_mem_cons]
      exact ⟨fun c hc => .inl (digits c hc), .inr rfl, fun c hc => .inl (places c hc)⟩
    · rw [List.count_append, List.count_cons_self,
        List.count_eq_zero_of_not_mem digits.not_mem_point,
        List.count_eq_zero_of_not_mem places.not_mem_point]
    · rcases nonempty with hne | hne
      · obtain ⟨c, a, rfl⟩ := List.exists_cons_of_ne_nil hne
        exact ⟨c, by simp, digits c List.mem_cons_self⟩
      · obtain ⟨c, b, rfl⟩ := List.exists_cons_of_ne_nil hne
        exact ⟨c, by simp, places c List.mem_cons_self⟩

theorem UnsignedIn.numeral (h : UnsignedIn isDecimalDigit s) : Numeral s := by
  obtain ⟨hchars, hpoint, d, hd, hdigit⟩ := h
  by_cases hmem : '.' ∈ s
  · -- the only point cuts the text into two runs of digits
    obtain ⟨a, b, rfl⟩ := List.append_of_mem hmem
    rw [List.count_append, List.count_cons_self] at hpoint
    have ha : '.' ∉ a := List.count_eq_zero.1 (by omega)
    have hb : '.' ∉ b := List.count_eq_zero.1 (by omega)
    rw [List.forall_mem_append, List.forall_mem_cons] at hchars
    refine .point (fun c hc => (hchars.1 c hc).resolve_right fun h => ha (h ▸ hc))
      (fun c hc => (hchars.2.2 c hc).resolve_right fun h => hb (h ▸ hc)) ?_
    rcases List.mem_append.1 hd with hd | hd
    · exact .inl (List.ne_nil_of_mem hd)
    · rcases List.mem_cons.1 hd with rfl | hd
      · exact absurd hdigit (by decide)
      · exact .inr (List.ne_nil_of_mem hd)
  · exact .whole (fun c hc => (hchars c hc).resolve_right fun h => hmem (h ▸ hc))
      (List.ne_nil_of_mem hd)

/-- What is written with at most one point among its digits is all that counts as a numeral. -/
theorem numeral_iff : Numeral s ↔ UnsignedIn isDecimalDigit s :=
  ⟨Numeral.unsignedIn, UnsignedIn.numeral⟩

theorem signedNumeral_iff : SignedNumeral s ↔ NumberIn isDecimalDigit s := by
  constructor
  · intro h
    cases h with
    | unsigned numeral => exact .unsigned (numeral_iff.1 numeral)
    | signed sign numeral => exact .signed sign (numeral_iff.1 numeral)
  · intro h
    cases h with
    | unsigned number => exact .unsigned (numeral_iff.2 number)
    | signed sign number => exact .signed sign (numeral_iff.2 number)

/-! ### Scripts -/

theorem UnsignedIn.of_class (h : UnsignedIn digit s)
    (hclass : ∀ c ∈ s, digit c = true → digit' c = true) : UnsignedIn digit' s := by
  obtain ⟨hchars, hpoint, d, hd, hdigit⟩ := h
  exact ⟨fun c hc => (hchars c hc).imp_left (hclass c hc), hpoint, d, hd, hclass d hd hdigit⟩

theorem NumberIn.of_class (h : NumberIn digit s)
    (hclass : ∀ c ∈ s, digit c = true → digit' c = true) : NumberIn digit' s := by
  cases h with
  | unsigned number => exact .unsigned (number.of_class hclass)
  | signed sign number =>
    exact .signed sign (number.of_class fun c hc => hclass c (List.mem_cons_of_mem _ hc))

/-- A number has digits, points and signs only. -/
theorem NumberIn.mem (h : NumberIn digit s) {c : Char} (hc : c ∈ s) :
    digit c = true ∨ c = '.' ∨ c = '+' ∨ c = '-' := by
  cases h with
  | unsigned number => exact (number.chars c hc).imp_right .inl
  | signed sign number =>
    rcases List.mem_cons.1 hc with rfl | hc
    · exact .inr (.inr sign)
    · exact (number.chars c hc).imp_right .inl

/-- A number in ASCII digits is a number without a digit of another script. -/
theorem numberIn_isDigit_iff : NumberIn Char.isDigit s ↔
    NumberIn isDecimalDigit s ∧ ∀ c ∈ s, ¬IsForeignDigit c := by
  constructor
  · intro h
    refine ⟨h.of_class fun c _ => isDecimalDigit_of_isDigit, fun c hc hforeign => ?_⟩
    rcases h.mem hc with hdigit | rfl | rfl | rfl
    · exact absurd (hforeign.2.symm.trans hdigit) (by decide)
    all_goals exact absurd hforeign (by decide)
  · rintro ⟨h, hnone⟩
    refine h.of_class fun c hc hdigit => ?_
    by_contra hnot
    exact hnone c hc ⟨hdigit, Bool.not_eq_true _ ▸ hnot⟩

/-! ### Literals -/

theorem literal_eq_self_iff_standsAlone {op : Operator} (h : op.TakesText) (value : String) :
    literal op value = value ↔ StandsAlone value.toList := by
  constructor
  · intro heq
    by_contra hnot
    exact inQuotes_ne value (((literal_eq_inQuotes_iff h value).2 hnot).symm.trans heq)
  · exact literal_of_standsAlone h

/-- Under an operator that takes one text, a value stands bare when it begins with the mark of a
variable, writes a number in ASCII digits, or writes one that has a digit of another script. It
stands between quotes in every other case. So without digits of other scripts only variables and
ASCII numbers stand bare; and what stands bare and is no variable has digits, points and signs
only. -/
theorem literal_eq_self_iff {op : Operator} (hop : op.TakesText) (value : String) :
    let s := value.toList
    (literal op value = value ↔ s.head? = some variableMark ∨ NumberIn Char.isDigit s ∨
      NumberIn isDecimalDigit s ∧ ∃ c ∈ s, IsForeignDigit c) ∧
    (literal op value = inQuotes value ↔ literal op value ≠ value) ∧
    ((∀ c ∈ s, ¬IsForeignDigit c) →
      (literal op value = value ↔ s.head? = some variableMark ∨ NumberIn Char.isDigit s) ∧
      (literal op value = inQuotes value ↔
        ¬(s.head? = some variableMark ∨ NumberIn Char.isDigit s))) ∧
    (literal op value = value → s.head? ≠ some variableMark →
      ∀ c ∈ s, isDecimalDigit c = true ∨ c = '.' ∨ c = '+' ∨ c = '-') := by
  intro s
  have hself : literal op value = value ↔ s.head? = some variableMark ∨ NumberIn isDecimalDigit s :=
    by rw [literal_eq_self_iff_standsAlone hop, StandsAlone, signedNumeral_iff]
  have hquotes : literal op value = inQuotes value ↔ literal op value ≠ value := by
    rw [literal_eq_inQuotes_iff hop, Ne, literal_eq_self_iff_standsAlone hop]
  have hascii (hnone : ∀ c ∈ s, ¬IsForeignDigit c) :
      literal op value = value ↔ s.head? = some variableMark ∨ NumberIn Char.isDigit s := by
    rw [hself, numberIn_isDigit_iff, and_iff_left hnone]
  refine ⟨?_, hquotes, fun hnone => ⟨hascii hnone, hquotes.trans (not_congr (hascii hnone))⟩,
    fun hbare hvariable c hc => ?_⟩
  · rw [hself, numberIn_isDigit_iff, ← and_or_left]
    have hforeign : (∀ c ∈ s, ¬IsForeignDigit c) ∨ ∃ c ∈ s, IsForeignDigit c := by
      by_cases h : ∃ c ∈ s, IsForeignDigit c
      · exact .inr h
      · exact .inl fun c hc hd => h ⟨c, hc, hd⟩
    rw [and_iff_left hforeign]
  · exact ((hself.1 hbare).resolve_left hvariable).mem hc

/-- A number stands bare, and with the end of a line after it between quotes. -/
theorem literal_eq_self_iff_lineEnd :
    literal .ge "-2.50" = "-2.50" ∧ literal .ge "-2.50\n" = inQuotes "-2.50\n" := by
  have hdigits : ∀ c ∈ "2.50".toList, c.isDigit = true ∨ c = '.' := by simp
  have hnumber : NumberIn Char.isDigit "-2.50".toList :=
    .signed (.inr rfl) ⟨hdigits, by decide, '2', by decide, by decide⟩
  have hnone : ¬NumberIn Char.isDigit "-2.50\n".toList := fun h =>
    absurd (h.mem (by decide : '\n' ∈ "-2.50\n".toList)) (by decide)
  have hascii : ∀ c ∈ "-2.50".toList, ¬IsForeignDigit c := (numberIn_isDigit_iff.1 hnumber).2
  have hended : ∀ c ∈ "-2.50".toList ++ ['\n'], ¬IsForeignDigit c :=
    List.forall_mem_append.2 ⟨hascii, List.forall_mem_singleton.2 (by decide)⟩
  obtain ⟨-, -, hbare, -⟩ := @literal_eq_self_iff .ge (by decide) "-2.50"
  obtain ⟨-, -, hquoted, -⟩ := @literal_eq_self_iff .ge (by decide) "-2.50\n"
  refine ⟨(hbare hascii).1.2 (.inr hnumber), (hquoted hended).2.2 ?_⟩
  exact fun h => h.elim (by decide) hnone

/-- A number in Arabic digits stands bare. -/
theorem foreignNumber_bare :
    literal .eq "٣" = "٣" ∧ literal .eq "٣" ≠ inQuotes "٣" ∧
      "٣".toList.head? ≠ some variableMark ∧ ¬NumberIn Char.isDigit "٣".toList := by
  have hbare : literal .eq "٣" = "٣" := by decide
  refine ⟨hbare, fun h => inQuotes_ne "٣" (h.symm.trans hbare), by decide, fun h => ?_⟩
  exact (numberIn_isDigit_iff.1 h).2 '٣' (by decide) (by decide)

end Soql
