/-
# Decimal digits

The decimal digits of all scripts (general category Nd), and the ten of ASCII with
the numbers written in them.

Key definitions: `isDecimalDigit`, `digitValue`, `hexValue?`, `readNat?`.
Key theorems: `digitValue_of_isDigit`, `readDigits_append_singleton`, `readDigits_toDigits`,
`le_readDigits`.
-/
import Soql.Text.Ranges

namespace Soql.Text

/-- The ranges of general category Nd beyond ASCII, each a row of digits from zero to nine. -/
def decimalDigitRanges : List (Nat × Nat) := [
  (0x660, 0x669), (0x6F0, 0x6F9), (0x7C0, 0x7C9), (0x966, 0x96F), (0x9E6, 0x9EF), (0xA66, 0xA6F),
  (0xAE6, 0xAEF), (0xB66, 0xB6F), (0xBE6, 0xBEF), (0xC66, 0xC6F), (0xCE6, 0xCEF), (0xD66, 0xD6F),
  (0xDE6, 0xDEF), (0xE50, 0xE59), (0xED0, 0xED9), (0xF20, 0xF29), (0x1040, 0x1049),
  (0x1090, 0x1099), (0x17E0, 0x17E9), (0x1810, 0x1819), (0x1946, 0x194F), (0x19D0, 0x19D9),
  (0x1A80, 0x1A89), (0x1A90, 0x1A99), (0x1B50, 0x1B59), (0x1BB0, 0x1BB9), (0x1C40, 0x1C49),
  (0x1C50, 0x1C59), (0xA620, 0xA629), (0xA8D0, 0xA8D9), (0xA900, 0xA909), (0xA9D0, 0xA9D9),
  (0xA9F0, 0xA9F9), (0xAA50, 0xAA59), (0xABF0, 0xABF9), (0xFF10, 0xFF19), (0x104A0, 0x104A9),
  (0x10D30, 0x10D39), (0x10D40, 0x10D49), (0x11066, 0x1106F), (0x110F0, 0x110F9),
  (0x11136, 0x1113F), (0x111D0, 0x111D9), (0x112F0, 0x112F9), (0x11450, 0x11459),
  (0x114D0, 0x114D9), (0x11650, 0x11659), (0x116C0, 0x116C9), (0x116D0, 0x116E3),
  (0x11730, 0x11739), (0x118E0, 0x118E9), (0x11950, 0x11959), (0x11BF0, 0x11BF9),
  (0x11C50, 0x11C59), (0x11D50, 0x11D59), (0x11DA0, 0x11DA9), (0x11DE0, 0x11DE9),
  (0x11F50, 0x11F59), (0x16130, 0x16139), (0x16A60, 0x16A69), (0x16AC0, 0x16AC9),
  (0x16B50, 0x16B59), (0x16D70, 0x16D79), (0x1CCF0, 0x1CCF9), (0x1D7CE, 0x1D7FF),
  (0x1E140, 0x1E149), (0x1E2F0, 0x1E2F9), (0x1E4F0, 0x1E4F9), (0x1E5F1, 0x1E5FA),
  (0x1E950, 0x1E959), (0x1FBF0, 0x1FBF9)]

/-- A decimal digit of any script. -/
def isDecimalDigit (c : Char) : Bool :=
  if c.toNat < 128 then c.isDigit else inRanges decimalDigitRanges c.toNat

/-- The value of an ASCII digit. -/
def digitValue (c : Char) : Nat := c.toNat - '0'.toNat

/-- The value of a hexadecimal digit in either case. -/
def hexValue? (c : Char) : Option Nat :=
  if c.isDigit then some (c.toNat - 48)
  else if 'a' ≤ c ∧ c ≤ 'f' then some (c.toNat - 87)
  else if 'A' ≤ c ∧ c ≤ 'F' then some (c.toNat - 55)
  else none

/-- The number that the digits `s` write to the base `base`, if they are digits of it. -/
def readBase? (base : Nat) (s : List Char) : Option Nat :=
  s.foldlM (fun n c => do
    let d ← hexValue? c
    if d < base then some (base * n + d) else none) 0

/-- The number that the ASCII digits `s` write after a number `n` has been read. -/
def readDigits (n : Nat) (s : List Char) : Nat := s.foldl (fun n c => 10 * n + digitValue c) n

/-- A number written in one or more ASCII digits, with or without a plus sign before them. -/
def readNat? (s : List Char) : Option Nat :=
  let digits := match s with
    | '+' :: r => r
    | s => s
  if !digits.isEmpty && digits.all Char.isDigit then some (readDigits 0 digits) else none

/-- An ASCII digit stands as far behind zero as its value says. -/
theorem digitValue_of_isDigit {c : Char} (h : c.isDigit = true) :
    c.toNat = 48 + digitValue c ∧ digitValue c ≤ 9 := by
  rw [Char.isDigit, Bool.and_eq_true, decide_eq_true_eq, decide_eq_true_eq] at h
  have hlow : 48 ≤ c.toNat := UInt32.le_iff_toNat_le.1 h.1
  have hhigh : c.toNat ≤ 57 := UInt32.le_iff_toNat_le.1 h.2
  have hvalue : digitValue c = c.toNat - 48 := rfl
  omega

theorem readDigits_append_singleton (n : Nat) (s : List Char) (c : Char) :
    readDigits n (s ++ [c]) = 10 * readDigits n s + digitValue c := by
  simp [readDigits]

theorem readDigits_toDigits (n : Nat) : readDigits 0 (Nat.toDigits 10 n) = n :=
  Nat.ofDigitChars_ten_toDigits

/-- Digits make a number larger. -/
theorem le_readDigits (n : Nat) (s : List Char) : n ≤ readDigits n s := by
  have h : readDigits n s = 10 ^ s.length * n + Nat.ofDigitChars 10 s 0 :=
    Nat.ofDigitChars_eq_ofDigitChars_zero
  have := Nat.le_mul_of_pos_left n (Nat.pow_pos (n := s.length) (show 0 < 10 by decide))
  omega

end Soql.Text
