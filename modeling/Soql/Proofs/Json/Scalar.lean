/-
# Reading strings and whole numbers

A string is read up to its closing quote, however its characters are written and whatever
comes after it. A whole number is read as far as its digits go, so what comes after it
must not go on with it; one of 64 bits, with or without a sign, is read exactly.

Key definitions: `Json.goesOn`.
Key theorems: `Json.readString_stringText`, `Json.readNumberValue_toString`.
-/
import Soql.Proofs.Json.Grammar
import Soql.Proofs.Json.Nesting
import Soql.Proofs.Text.Separable

namespace Soql.Json

open Text

/-! ### Strings -/

variable {t : List Char} {c : Char}

theorem readHex4_hexText {n : Nat} (h : HexText t n) (r : List Char) :
    readHex4 (t ++ r) = some (n, r) := by
  obtain ⟨h₁, h₂, h₃, h₄⟩ := h
  simp [readHex4, h₁, h₂, h₃, h₄]

/-- No character has the number of a half of a surrogate pair. -/
theorem not_surrogate (c : Char) : ¬(0xD800 ≤ c.toNat ∧ c.toNat ≤ 0xDFFF) := by
  have := c.valid
  rw [UInt32.isValidChar, Nat.isValidChar] at this
  have : c.toNat = c.val.toNat := rfl
  omega

theorem readUnicodeEscape_number (h : HexText t c.toNat) (r : List Char) :
    readUnicodeEscape .whole (t ++ r) = .ok (c, r) := by
  have hc := not_surrogate c
  rw [readUnicodeEscape, readHex4_hexText h]
  simp only [reduceCtorEq, if_false]
  rw [if_neg (by omega), if_neg (by omega), Char.ofNat_toNat]

theorem readUnicodeEscape_pair {u : List Char} {high low : Nat} (ht : HexText t high)
    (hu : HexText u low) (hhigh : 0xD800 ≤ high ∧ high ≤ 0xDBFF)
    (hlow : 0xDC00 ≤ low ∧ low ≤ 0xDFFF)
    (hc : c.toNat = 0x10000 + (high - 0xD800) * 0x400 + (low - 0xDC00)) (r : List Char) :
    readUnicodeEscape .whole (t ++ '\\' :: 'u' :: (u ++ r)) = .ok (c, r) := by
  rw [readUnicodeEscape, readHex4_hexText ht]
  simp only [reduceCtorEq, if_false, readHex4_hexText hu, hhigh, hlow, and_self, if_true]
  rw [if_neg (by omega), ← hc, Char.ofNat_toNat]

theorem shortEscape?_of_mem {e : Char} (h : (e, c) ∈ shortEscapes) :
    shortEscape? e = some c ∧ e ≠ 'u' := by
  simp only [shortEscapes, List.mem_cons, Prod.mk.injEq, List.not_mem_nil, or_false] at h
  rcases h with ⟨rfl, rfl⟩ | ⟨rfl, rfl⟩ | ⟨rfl, rfl⟩ | ⟨rfl, rfl⟩ | ⟨rfl, rfl⟩ | ⟨rfl, rfl⟩ |
    ⟨rfl, rfl⟩ | ⟨rfl, rfl⟩ <;> exact ⟨rfl, by decide⟩

/-- One written character is read as that character. -/
theorem readString_charText (h : CharText t c) (n : Nat) (s : List Char) :
    readString .whole (n + 1) (t ++ s) =
      (readString .whole n s).map fun p => (c :: p.1, p.2) := by
  cases h with
  | plain quote backslash control =>
    rw [List.singleton_append, readString, if_neg control]
    · cases readString .whole n s <;> rfl
    · exact quote
    · exact backslash
  | @short e _ escape =>
    obtain ⟨he, hu⟩ := shortEscape?_of_mem escape
    rw [List.cons_append, List.singleton_append, readString]
    · simp only [he]
      cases readString .whole n s <;> rfl
    · exact hu
  | number digits =>
    simp only [List.cons_append, readString, readUnicodeEscape_number digits, ok_bind]
    cases readString .whole n s <;> rfl
  | pair digits digits' first second value =>
    simp only [List.cons_append, List.append_assoc, readString,
      readUnicodeEscape_pair digits digits' first second value, ok_bind]
    cases readString .whole n s <;> rfl

/-- A string is read up to its closing quote. -/
theorem readString_stringText {s : List Char} (h : StringText t s) :
    ∀ {n : Nat} (r : List Char), s.length < n →
      readString .whole n (t ++ '"' :: r) = .ok (s, r) := by
  induction h with
  | nil =>
    intro n r hn
    obtain ⟨n, rfl⟩ : ∃ k, n = k + 1 := ⟨n - 1, by simp at hn; omega⟩
    rw [List.nil_append, readString]
  | cons first rest ih =>
    intro n r hn
    rw [List.length_cons] at hn
    obtain ⟨n, rfl⟩ : ∃ k, n = k + 1 := ⟨n - 1, by omega⟩
    rw [List.append_assoc, readString_charText first, ih r (by omega)]
    rfl

/-- A string is not longer than its text. -/
theorem length_le_stringText {s : List Char} (h : StringText t s) : s.length ≤ t.length := by
  induction h with
  | nil => exact Nat.le_refl 0
  | @cons t u c s first rest ih =>
    have : 0 < t.length := by cases first <;> exact Nat.zero_lt_succ _
    rw [List.length_append, List.length_cons]
    omega

/-! ### Whole numbers -/

/-- Digits of a number of 64 bits are all gathered. -/
theorem gather_of_lt : ∀ {n : Nat} {s : List Char}, readDigits n s < UInt64.size →
    gather n s = (readDigits n s, [])
  | _, [], _ => rfl
  | n, c :: s, h => by
    have hle : 10 * n + digitValue c ≤ readDigits n (c :: s) := le_readDigits _ s
    rw [gather, if_pos (by omega)]
    exact gather_of_lt h

/-- A zero begins no other number. -/
theorem eq_nil_of_toDigits_zero (n : Nat) : ∀ s, Nat.toDigits 10 n = '0' :: s → s = [] := by
  induction n using Nat.base_induction 10 (by decide) with
  | single m hm =>
    intro s h
    rw [Nat.toDigits_of_lt_base hm] at h
    exact (List.cons.inj h).2.symm
  | digit m k hk hm ih =>
    intro s h
    rw [← Nat.toDigits_append_toDigits (by decide) hm hk] at h
    obtain ⟨c, t, ht⟩ := List.exists_cons_of_ne_nil (Nat.toDigits_ne_nil (n := m) (b := 10))
    rw [ht, List.cons_append, List.cons.injEq] at h
    obtain ⟨rfl, -⟩ := h
    -- a zero in front would leave nothing else before the last digit
    have hzero : readDigits 0 (Nat.toDigits 10 m) = 0 := by rw [ht, ih t ht]; decide
    rw [readDigits_toDigits] at hzero
    omega

/-- The characters that may go on with a number. -/
def goesOn (c : Char) : Bool := c.isDigit || c = '.' || c = 'e' || c = 'E'

theorem takeDigits_append {ds r : List Char} (hd : ∀ c ∈ ds, c.isDigit = true)
    (hr : StopsAt goesOn r) : takeDigits (ds ++ r) = (ds, r) := by
  have hs : StopsAt Char.isDigit r := fun c hc => by
    have := hr c hc
    simp only [goesOn, Bool.or_eq_false_iff] at this
    exact this.1.1.1
  rw [takeDigits, List.takeWhile_append_of_pos hd, List.dropWhile_append_of_pos hd,
    takeWhile_of_stops hs, dropWhile_of_stops hs, List.append_nil]

theorem readFraction_of_stops {r : List Char} (hr : StopsAt goesOn r) :
    readFraction r = some (none, r) := by
  unfold readFraction
  split
  · exact absurd (stopsAt_cons.1 hr) (by decide)
  · rfl

theorem readExponent_of_stops {r : List Char} (hr : StopsAt goesOn r) :
    readExponent r = some (none, r) := by
  cases r with
  | nil => rfl
  | cons c r =>
    have hc := stopsAt_cons.1 hr
    simp only [goesOn, Bool.or_eq_false_iff] at hc
    simp [readExponent.eq_def, hc]

theorem isDigits_toDigits (n : Nat) : IsDigits (Nat.toDigits 10 n) :=
  ⟨Nat.toDigits_ne_nil, fun _ hc => Nat.isDigit_of_mem_toDigits (by decide) (by decide) hc⟩

theorem toList_ofNat (n : Nat) : (toString (Int.ofNat n)).toList = Nat.toDigits 10 n :=
  Nat.toList_repr

theorem toList_negSucc (n : Nat) :
    (toString (Int.negSucc n)).toList = '-' :: Nat.toDigits 10 (n + 1) := by
  show ("-" ++ (n + 1).repr).toList = _
  rw [String.toList_append, Nat.toList_repr]
  rfl

/-- The digits of a number begin with a digit, and with a zero only when they are no more. -/
theorem toDigits_eq_cons (n : Nat) : ∃ c ds, Nat.toDigits 10 n = c :: ds ∧ c.isDigit = true ∧
    (c = '0' → ds = []) := by
  obtain ⟨c, ds, h⟩ := List.exists_cons_of_ne_nil (Nat.toDigits_ne_nil (n := n) (b := 10))
  refine ⟨c, ds, h, ?_, fun hc => ?_⟩
  · exact (isDigits_toDigits n).2 c (h ▸ List.mem_cons_self)
  · exact eq_nil_of_toDigits_zero n ds (hc ▸ h)

theorem takeDigits_toDigits (n : Nat) {r : List Char} (hr : StopsAt goesOn r) :
    takeDigits (Nat.toDigits 10 n ++ r) = (Nat.toDigits 10 n, r) :=
  takeDigits_append (isDigits_toDigits n).2 hr

/-- The digits of a number are a number by themselves, with or without a minus before them. -/
theorem readNumber_toDigits (negative : Bool) (n : Nat) {r : List Char} (hr : StopsAt goesOn r) :
    readNumber ((if negative then ['-'] else []) ++ (Nat.toDigits 10 n ++ r)) =
      some (⟨negative, Nat.toDigits 10 n, none, none⟩, r) := by
  have htake := takeDigits_toDigits n hr
  obtain ⟨c, ds, h, hc, hz⟩ := toDigits_eq_cons n
  rw [h, List.cons_append] at htake ⊢
  generalize ds ++ r = s at htake ⊢
  have hminus : c ≠ '-' := fun e => absurd (e ▸ hc) (by decide)
  simp only [readNumber]
  cases ds with
  | nil =>
    cases negative <;> simp [hminus, htake, readFraction_of_stops hr, readExponent_of_stops hr]
  | cons d ds =>
    have hzero : c ≠ '0' := fun e => absurd (hz e) (by simp)
    cases negative <;>
      simp [hminus, hzero, htake, readFraction_of_stops hr, readExponent_of_stops hr]

/-- A written whole number is read exactly. -/
theorem readNumberValue_toString (care : Care) {n : Int} (hn : IsWhole64 n) {r : List Char}
    (hr : StopsAt goesOn r) :
    readNumberValue care ((toString n).toList ++ r) = .ok (.int n, r) := by
  have hmin : Int64.minValue.toInt = -9223372036854775808 := by decide
  have hsize : UInt64.size = 18446744073709551616 := rfl
  obtain ⟨hlow, hhigh⟩ := hn
  have hgather : ∀ m : Nat, m < UInt64.size → gather 0 (Nat.toDigits 10 m) = (m, []) := by
    intro m hm
    rw [gather_of_lt (by rwa [readDigits_toDigits]), readDigits_toDigits]
  cases n with
  | ofNat m =>
    have hm : m < UInt64.size := by rw [Int.ofNat_eq_natCast] at hhigh; omega
    have hread := readNumber_toDigits false m hr
    simp only [Bool.false_eq_true, if_false, List.nil_append] at hread
    rw [readNumberValue, toList_ofNat, hread]
    simp [NumberText.value?, hgather m hm]
  | negSucc m =>
    have hm : m + 1 < UInt64.size := by omega
    have hread := readNumber_toDigits true (m + 1) hr
    simp only [if_true, List.singleton_append] at hread
    have hreal : ¬(-((m + 1 : Nat) : Int) < Int64.minValue.toInt) := by omega
    rw [readNumberValue, toList_negSucc, List.cons_append, hread]
    have hvalue : NumberText.value? ⟨true, Nat.toDigits 10 (m + 1), none, none⟩ =
        some (.int (-((m + 1 : Nat) : Int))) := by
      simp only [NumberText.value?, hgather (m + 1) hm]
      rw [if_neg (by simp), if_neg (by simp), if_neg (by simpa using hreal)]
    simp only [hvalue]
    rfl

end Soql.Json
