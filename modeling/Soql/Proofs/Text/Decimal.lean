/-
# Numbers written in decimal digits

Which texts write a number: digits, each of which counts by its place, after a plus sign or none.
These are the texts of which `readNat?` reads a number (`readNat?_eq_some_iff`). A number above zero
is written by its decimal, with as many zeros in front as one likes (`writesNat_iff_toDigits`).

A number of 32 bits can also be put together digit by digit in 32 bits, where it wraps around when
it grows too large. A step that wraps is told by undoing it, and the number is given up there. As
digits only make a number larger, what is given up early is what does not fit in the end
(`readWord?_eq_some_iff`).

Key definitions: `DigitsOf`, `WritesNat`, `addDigit?`, `readWord?`.
Key theorems: `readDigits_eq_ofDigits`, `toDigits_readDigits`, `readNat?_eq_some_iff`,
`writesNat_iff_toDigits`, `addDigit?_eq_some_iff`, `foldlM_addDigit?_eq_some_iff`,
`readWord?_eq_some_iff`.
-/
import Mathlib.Data.List.Induction
import Mathlib.Data.Nat.Digits.Defs
import Soql.Text.Digit

namespace Soql.Text

variable {n : Nat} {m k : UInt32} {c : Char} {s : List Char}

/-! ### What digits write -/

/-- ASCII digits, one at least, that write `n`. -/
structure DigitsOf (n : Nat) (s : List Char) : Prop where
  nonempty : s ≠ []
  digits : ∀ c ∈ s, c.isDigit = true
  value : Nat.ofDigits 10 (s.reverse.map digitValue) = n

/-- Reading from the first digit on gives each digit the weight of its place. -/
theorem readDigits_eq_ofDigits (s : List Char) :
    readDigits 0 s = Nat.ofDigits 10 (s.reverse.map digitValue) := by
  induction s using List.reverseRecOn with
  | nil => rfl
  | append_singleton s c ih =>
    calc readDigits 0 (s ++ [c]) = 10 * readDigits 0 s + digitValue c :=
          readDigits_append_singleton 0 s c
      _ = digitValue c + 10 * Nat.ofDigits 10 (s.reverse.map digitValue) := by rw [ih, Nat.add_comm]
      _ = Nat.ofDigits 10 ((s ++ [c]).reverse.map digitValue) := by simp [Nat.ofDigits_cons]

theorem digitsOf_iff : DigitsOf n s ↔
    s ≠ [] ∧ (∀ c ∈ s, c.isDigit = true) ∧ readDigits 0 s = n := by
  rw [readDigits_eq_ofDigits]
  exact ⟨fun h => ⟨h.nonempty, h.digits, h.value⟩, fun ⟨hne, hd, hv⟩ => ⟨hne, hd, hv⟩⟩

theorem DigitsOf.unique {n' : Nat} (h : DigitsOf n s) (h' : DigitsOf n' s) : n = n' :=
  h.value.symm.trans h'.value

/-! ### The decimal of a number -/

theorem digitsOf_toDigits (n : Nat) : DigitsOf n (Nat.toDigits 10 n) := by
  refine digitsOf_iff.2 ⟨Nat.toDigits_ne_nil, fun c hc => ?_, readDigits_toDigits n⟩
  exact Nat.isDigit_of_mem_toDigits (by decide) (by decide) hc

theorem digitsOf_toString (n : Nat) : DigitsOf n (toString n).toList := by
  rw [Nat.toString_eq_repr, Nat.toList_repr]
  exact digitsOf_toDigits n

theorem toString_eq_iff {m n : Nat} : toString m = toString n ↔ m = n := by
  refine ⟨fun h => ?_, fun h => h ▸ rfl⟩
  have hm : DigitsOf m (toString n).toList := h ▸ digitsOf_toString m
  exact hm.unique (digitsOf_toString n)

theorem toDigits_digitValue (h : c.isDigit = true) : Nat.toDigits 10 (digitValue c) = [c] := by
  obtain ⟨hvalue, hle⟩ := digitValue_of_isDigit h
  have hlt : digitValue c < 10 := by omega
  rw [Nat.toDigits_of_lt_base hlt, List.cons.injEq, ← Char.toNat_inj,
    Nat.toNat_digitChar_of_lt_ten hlt, hvalue]
  exact ⟨rfl, rfl⟩

/-- Digits without a zero in front are the decimal of what they write. -/
theorem toDigits_readDigits (hne : s ≠ []) (hdigits : ∀ c ∈ s, c.isDigit = true)
    (hfirst : s.head? ≠ some '0') : Nat.toDigits 10 (readDigits 0 s) = s := by
  induction s using List.reverseRecOn with
  | nil => exact absurd rfl hne
  | append_singleton s c ih =>
    have hc : c.isDigit = true := hdigits c (by simp)
    obtain ⟨-, hle⟩ := digitValue_of_isDigit hc
    rw [readDigits_append_singleton]
    by_cases hs : s = []
    · subst hs
      simpa [readDigits] using toDigits_digitValue hc
    · have hfirst : s.head? ≠ some '0' := by
        obtain ⟨d, t, rfl⟩ := List.exists_cons_of_ne_nil hs
        exact hfirst
      have ih := ih hs (fun d hd => hdigits d (by simp [hd])) hfirst
      -- otherwise the digits before the last one are a zero, which stands in front
      have hpos : 0 < readDigits 0 s := by
        by_contra hzero
        rw [Nat.eq_zero_of_not_pos hzero, Nat.toDigits_zero] at ih
        exact hfirst (by rw [← ih]; rfl)
      calc Nat.toDigits 10 (10 * readDigits 0 s + digitValue c)
          = Nat.toDigits 10 (readDigits 0 s) ++ Nat.toDigits 10 (digitValue c) :=
            (Nat.toDigits_append_toDigits (by decide) hpos (by omega)).symm
        _ = s ++ [c] := by rw [ih, toDigits_digitValue hc]

/-- Zeros in front do not count. -/
theorem digitsOf_iff_toDigits (h : 1 ≤ n) :
    DigitsOf n s ↔ ∃ k, s = List.replicate k '0' ++ Nat.toDigits 10 n := by
  constructor
  · intro hs
    obtain ⟨-, hdigits, hvalue⟩ := digitsOf_iff.1 hs
    clear hs
    induction s with
    | nil =>
      have hzero : readDigits 0 [] = 0 := rfl
      omega
    | cons c s ih =>
      by_cases hc : c = '0'
      · subst hc
        obtain ⟨k, hk⟩ := ih (fun d hd => hdigits d (List.mem_cons_of_mem _ hd)) hvalue
        exact ⟨k + 1, by rw [hk, List.replicate_succ, List.cons_append]⟩
      · have hfirst : (c :: s).head? ≠ some '0' := by simpa using hc
        refine ⟨0, ?_⟩
        rw [← hvalue, toDigits_readDigits (List.cons_ne_nil c s) hdigits hfirst]
        rfl
  · rintro ⟨k, rfl⟩
    induction k with
    | zero => exact digitsOf_toDigits n
    | succ k ih =>
      obtain ⟨-, hdigits, hvalue⟩ := digitsOf_iff.1 ih
      refine digitsOf_iff.2 ⟨List.cons_ne_nil _ _, ?_, hvalue⟩
      exact List.forall_mem_cons.2 ⟨by decide, hdigits⟩

/-! ### Numbers with a plus sign or none -/

/-- Digits that write `n`, with a plus sign before them or none. -/
inductive WritesNat (n : Nat) : List Char → Prop where
  | unsigned {s : List Char} (number : DigitsOf n s) : WritesNat n s
  | plus {s : List Char} (number : DigitsOf n s) : WritesNat n ('+' :: s)

/-- The text without the plus sign that it begins with. -/
def withoutPlus : List Char → List Char
  | '+' :: s => s
  | s => s

theorem writesNat_iff : WritesNat n s ↔ DigitsOf n (withoutPlus s) := by
  have hsign {s : List Char} : ¬DigitsOf n ('+' :: s) := fun h =>
    absurd (h.digits '+' List.mem_cons_self) (by decide)
  constructor
  · intro h
    cases h with
    | plus number => exact number
    | unsigned number =>
      unfold withoutPlus
      split
      · exact absurd number hsign
      · exact number
  · intro h
    unfold withoutPlus at h
    split at h
    · exact .plus h
    · exact .unsigned h

theorem WritesNat.unique {n' : Nat} (h : WritesNat n s) (h' : WritesNat n' s) : n = n' :=
  (writesNat_iff.1 h).unique (writesNat_iff.1 h')

theorem writesNat_iff_toDigits (h : 1 ≤ n) : WritesNat n s ↔
    ∃ sign ∈ [[], ['+']], ∃ k, s = sign ++ (List.replicate k '0' ++ Nat.toDigits 10 n) := by
  constructor
  · intro hs
    cases hs with
    | unsigned number => exact ⟨[], by simp, (digitsOf_iff_toDigits h).1 number⟩
    | plus number =>
      obtain ⟨k, hk⟩ := (digitsOf_iff_toDigits h).1 number
      exact ⟨['+'], by simp, k, by rw [hk]; rfl⟩
  · rintro ⟨sign, hsign, k, rfl⟩
    have hdigits := (digitsOf_iff_toDigits h).2 ⟨k, rfl⟩
    simp only [List.mem_cons, List.not_mem_nil, or_false] at hsign
    rcases hsign with rfl | rfl
    · exact .unsigned hdigits
    · exact .plus hdigits

theorem readNat?_eq (s : List Char) :
    readNat? s = if !(withoutPlus s).isEmpty && (withoutPlus s).all Char.isDigit then
      some (readDigits 0 (withoutPlus s)) else none := rfl

/-- A number is read exactly of the texts that write it. -/
theorem readNat?_eq_some_iff : readNat? s = some n ↔ WritesNat n s := by
  rw [readNat?_eq, writesNat_iff, digitsOf_iff]
  simp [and_assoc]

/-! ### Digit by digit in 32 bits -/

/-- One more digit of a number; none when what is gathered does not fit into 32 bits. -/
def addDigit? (m : UInt32) (c : Char) : Option UInt32 :=
  let tens := 10 * m
  let sum := tens + (c.val - '0'.val)
  if c.isDigit = true ∧ tens / 10 = m ∧ tens ≤ sum then some sum else none

/-- A number of 32 bits, put together in 32 bits. -/
def readWord? (s : List Char) : Option UInt32 :=
  if (withoutPlus s).isEmpty then none else (withoutPlus s).foldlM addDigit? 0

theorem toNat_digit (h : c.isDigit = true) : (c.val - '0'.val).toNat = digitValue c := by
  obtain ⟨hvalue, -⟩ := digitValue_of_isDigit h
  have hle : '0'.val ≤ c.val := UInt32.le_iff_toNat_le.2 (show 48 ≤ c.toNat by omega)
  rw [UInt32.toNat_sub_of_le _ _ hle]
  rfl

/-- A digit is taken exactly when the number with it fits, and then it is that number. -/
theorem addDigit?_eq_some_iff (h : c.isDigit = true) :
    addDigit? m c = some k ↔ k.toNat = 10 * m.toNat + digitValue c := by
  obtain ⟨-, hle⟩ := digitValue_of_isDigit h
  have hk := k.toNat_lt
  have hm := m.toNat_lt
  have htens : (10 * m).toNat = 10 * m.toNat % 2 ^ 32 := UInt32.toNat_mul 10 m
  have hsum : (10 * m + (c.val - '0'.val)).toNat =
      (10 * m.toNat % 2 ^ 32 + digitValue c) % 2 ^ 32 := by
    rw [UInt32.toNat_add, htens, toNat_digit h]
  have hback : 10 * m / 10 = m ↔ 10 * m.toNat % 2 ^ 32 / 10 = m.toNat := by
    rw [← UInt32.toNat_inj, UInt32.toNat_div, htens]
    rfl
  simp only [addDigit?, h, true_and, hback, UInt32.le_iff_toNat_le, htens, hsum]
  constructor
  · intro hadd
    split at hadd
    · rename_i hfits
      obtain rfl := Option.some.inj hadd
      rw [hsum]
      omega
    · cases hadd
  · intro hvalue
    rw [if_pos (by omega), Option.some.injEq, ← UInt32.toNat_inj, hsum, hvalue]
    omega

theorem addDigit?_of_not_isDigit (h : ¬c.isDigit = true) : addDigit? m c = none := by
  simp [addDigit?, h]

/-- Digits are put together in 32 bits exactly when what they write fits into them. -/
theorem foldlM_addDigit?_eq_some_iff : ∀ {s : List Char} {m : UInt32},
    s.foldlM addDigit? m = some k ↔
      (∀ c ∈ s, c.isDigit = true) ∧ readDigits m.toNat s = k.toNat
  | [], m => by
    simp [readDigits, UInt32.toNat_inj]
  | c :: s, m => by
    rw [List.foldlM_cons, List.forall_mem_cons]
    by_cases hc : c.isDigit = true
    · have hread : readDigits m.toNat (c :: s) = readDigits (10 * m.toNat + digitValue c) s := rfl
      have hle := le_readDigits (10 * m.toNat + digitValue c) s
      have hk := k.toNat_lt
      constructor
      · intro h
        obtain ⟨m', hstep, hrest⟩ := Option.bind_eq_some_iff.1 h
        rw [addDigit?_eq_some_iff hc] at hstep
        obtain ⟨hs, hvalue⟩ := foldlM_addDigit?_eq_some_iff.1 hrest
        exact ⟨⟨hc, hs⟩, by rw [hread, ← hstep, hvalue]⟩
      · rintro ⟨⟨-, hs⟩, hvalue⟩
        rw [hread] at hvalue
        -- the step fits because the number in the end does, and that one is not smaller
        have hfits : 10 * m.toNat + digitValue c < UInt32.size := by
          have : UInt32.size = 2 ^ 32 := rfl
          omega
        have hnext := UInt32.toNat_ofNat_of_lt' hfits
        have hstep := (addDigit?_eq_some_iff (m := m) hc).2 hnext
        refine Option.bind_eq_some_iff.2 ⟨_, hstep, foldlM_addDigit?_eq_some_iff.2 ⟨hs, ?_⟩⟩
        rw [hnext, hvalue]
    · simp [addDigit?_of_not_isDigit hc, hc]

/-- What is put together in 32 bits is the number that the text writes, if it fits into them. -/
theorem readWord?_eq_some_iff : readWord? s = some k ↔ WritesNat k.toNat s := by
  rw [writesNat_iff, digitsOf_iff, readWord?]
  split
  · rename_i hempty
    simp [List.isEmpty_iff.1 hempty]
  · rename_i hempty
    rw [foldlM_addDigit?_eq_some_iff]
    simpa using fun _ _ => hempty

end Soql.Text
