/-
# Texts are read back from their bytes

The bytes of a character are read as that character, whatever bytes come after them. A byte
below 128 stands in the bytes of one character only. Bytes that are read without a malformed
piece are the bytes of characters, so no other bytes are read as a text.

Key theorems: `Utf8.scanFrom_encodeChar`, `Utf8.decode?_encode`,
`Utf8.toNat_eq_of_mem_encodeChar`, `Utf8.exists_encodeChar`, `Utf8.decode?_eq_some_iff`.
-/
import Soql.Text.Utf8

namespace Soql.Utf8

variable {b value owed low high : Nat} {bs : List UInt8}

theorem toNat_ofNat_of_lt (h : b < 256) : (UInt8.ofNat b).toNat = b := by
  rw [UInt8.toNat_ofNat', Nat.mod_eq_of_lt h]

/-! ### One byte after another -/

theorem scanFrom_begin {p : Pending} (hb : b < 256) (h : first b = .pending p) :
    scanFrom none (UInt8.ofNat b :: bs) = scanFrom (some p) bs := by
  rw [scanFrom, toNat_ofNat_of_lt hb, h]

theorem scanFrom_more (hb : b < 256) (hlow : low ≤ b) (hhigh : b ≤ high) (howed : 2 ≤ owed) :
    scanFrom (some ⟨value, owed, low, high⟩) (UInt8.ofNat b :: bs) =
      scanFrom (some ⟨64 * value + (b - 0x80), owed - 1, 0x80, 0xBF⟩) bs := by
  rw [scanFrom, toNat_ofNat_of_lt hb, if_pos ⟨hlow, hhigh⟩, if_neg (show owed ≠ 1 by omega)]
  rfl

theorem scanFrom_last (hb : b < 256) (hlow : low ≤ b) (hhigh : b ≤ high) :
    scanFrom (some ⟨value, 1, low, high⟩) (UInt8.ofNat b :: bs) =
      some (Char.ofNat (64 * value + (b - 0x80))) :: scanFrom none bs := by
  rw [scanFrom, toNat_ofNat_of_lt hb, if_pos ⟨hlow, hhigh⟩, if_pos rfl]
  rfl

/-! ### Characters of two, three and four bytes -/

variable {a c d : Nat}

theorem first_two (ha : 0xC2 ≤ a ∧ a < 0xE0) : first a = .pending ⟨a - 0xC0, 1, 0x80, 0xBF⟩ := by
  rw [first, if_neg (by omega), if_neg (by omega), if_pos ha.2]

theorem first_three (ha : 0xE0 ≤ a ∧ a < 0xF0) :
    first a = .pending ⟨a - 0xE0, 2, if a = 0xE0 then 0xA0 else 0x80,
      if a = 0xED then 0x9F else 0xBF⟩ := by
  rw [first, if_neg (by omega), if_neg (by omega), if_neg (by omega), if_pos ha.2]

theorem first_four (ha : 0xF0 ≤ a ∧ a < 0xF5) :
    first a = .pending ⟨a - 0xF0, 3, if a = 0xF0 then 0x90 else 0x80,
      if a = 0xF4 then 0x8F else 0xBF⟩ := by
  rw [first, if_neg (by omega), if_neg (by omega), if_neg (by omega), if_neg (by omega),
    if_pos ha.2]

theorem scanFrom_two (ha : 0xC2 ≤ a ∧ a < 0xE0) (hb : 0x80 ≤ b ∧ b ≤ 0xBF) :
    scanFrom none (UInt8.ofNat a :: UInt8.ofNat b :: bs) =
      some (Char.ofNat (64 * (a - 0xC0) + (b - 0x80))) :: scanFrom none bs := by
  rw [scanFrom_begin (by omega) (first_two ha), scanFrom_last (by omega) hb.1 hb.2]

theorem scanFrom_three (ha : 0xE0 ≤ a ∧ a < 0xF0) (hb : 0x80 ≤ b ∧ b ≤ 0xBF)
    (hlow : a = 0xE0 → 0xA0 ≤ b) (hhigh : a = 0xED → b ≤ 0x9F) (hc : 0x80 ≤ c ∧ c ≤ 0xBF) :
    scanFrom none (UInt8.ofNat a :: UInt8.ofNat b :: UInt8.ofNat c :: bs) =
      some (Char.ofNat (64 * (64 * (a - 0xE0) + (b - 0x80)) + (c - 0x80))) :: scanFrom none bs := by
  rw [scanFrom_begin (by omega) (first_three ha),
    scanFrom_more (by omega) (by split <;> omega) (by split <;> omega) (by omega),
    scanFrom_last (by omega) hc.1 hc.2]

theorem scanFrom_four (ha : 0xF0 ≤ a ∧ a < 0xF5) (hb : 0x80 ≤ b ∧ b ≤ 0xBF)
    (hlow : a = 0xF0 → 0x90 ≤ b) (hhigh : a = 0xF4 → b ≤ 0x8F) (hc : 0x80 ≤ c ∧ c ≤ 0xBF)
    (hd : 0x80 ≤ d ∧ d ≤ 0xBF) :
    scanFrom none (UInt8.ofNat a :: UInt8.ofNat b :: UInt8.ofNat c :: UInt8.ofNat d :: bs) =
      some (Char.ofNat (64 * (64 * (64 * (a - 0xF0) + (b - 0x80)) + (c - 0x80)) + (d - 0x80))) ::
        scanFrom none bs := by
  rw [scanFrom_begin (by omega) (first_four ha),
    scanFrom_more (by omega) (by split <;> omega) (by split <;> omega) (by omega),
    scanFrom_more (by omega) hc.1 hc.2 (by omega), scanFrom_last (by omega) hd.1 hd.2]

/-- The bytes of a character are read as that character. -/
theorem scanFrom_encodeChar (x : Char) (bs : List UInt8) :
    scanFrom none (String.utf8EncodeChar x ++ bs) = some x :: scanFrom none bs := by
  have hvalid := x.valid
  rw [UInt32.isValidChar, Nat.isValidChar] at hvalid
  have hchar : ∀ n, n = x.val.toNat → Char.ofNat n = x := fun n h => h ▸ Char.ofNat_toNat x
  rw [String.utf8EncodeChar]
  generalize x.val.toNat = v at *
  split
  · rw [List.singleton_append, scanFrom, toNat_ofNat_of_lt (by omega), first, if_pos (by omega)]
    exact congrArg (some · :: _) (hchar v rfl)
  · split
    · show scanFrom none (_ :: _ :: bs) = _
      rw [scanFrom_two (by omega) (by omega), hchar _ (by omega)]
    · split
      · show scanFrom none (_ :: _ :: _ :: bs) = _
        rw [scanFrom_three (by omega) (by omega) (by omega) (by omega) (by omega),
          hchar _ (by omega)]
      · show scanFrom none (_ :: _ :: _ :: _ :: bs) = _
        rw [scanFrom_four (by omega) (by omega) (by omega) (by omega) (by omega) (by omega),
          hchar _ (by omega)]

/-! ### Texts -/

theorem scan_encode : ∀ s : List Char, scan (encode s) = s.map some
  | [] => rfl
  | c :: s => by
    have ih : scanFrom none (encode s) = s.map some := scan_encode s
    rw [scan, encode, List.flatMap_cons, scanFrom_encodeChar, ← encode, ih, List.map_cons]

/-- A text is read back from its bytes. -/
theorem decode?_encode (s : List Char) : decode? (encode s) = some s := by
  rw [decode?, scan_encode]
  induction s with
  | nil => rfl
  | cons c s ih => rw [List.map_cons, List.mapM_cons, ih]; rfl

theorem encode_append (s t : List Char) : encode (s ++ t) = encode s ++ encode t :=
  List.flatMap_append

/-- A byte below 128 is a character of its own. -/
theorem toNat_eq_of_mem_encodeChar {x : Char} {y : UInt8} (h : y ∈ String.utf8EncodeChar x)
    (hy : y.toNat < 0x80) : y.toNat = x.toNat := by
  have hvalid := x.valid
  rw [UInt32.isValidChar, Nat.isValidChar] at hvalid
  have hx : x.toNat = x.val.toNat := rfl
  have hbyte : ∀ n, n < 256 → y = UInt8.ofNat n → y.toNat = n := fun n hn h => by
    rw [h, toNat_ofNat_of_lt hn]
  rw [String.utf8EncodeChar] at h
  rw [hx]
  generalize x.val.toNat = v at *
  split at h
  · exact hbyte v (by omega) (List.mem_singleton.1 h)
  · -- all the bytes are greater
    have hno : ∀ n, 0x80 ≤ n → n < 256 → y ≠ UInt8.ofNat n := fun n hn hn' he => by
      have := hbyte n hn' he
      omega
    split at h
    · simp only [List.mem_cons, List.not_mem_nil, or_false] at h
      rcases h with h | h <;> exact absurd h (hno _ (by omega) (by omega))
    · split at h
      · simp only [List.mem_cons, List.not_mem_nil, or_false] at h
        rcases h with h | h | h <;> exact absurd h (hno _ (by omega) (by omega))
      · simp only [List.mem_cons, List.not_mem_nil, or_false] at h
        rcases h with h | h | h | h <;> exact absurd h (hno _ (by omega) (by omega))

/-! ### Bytes that are a text -/

/-- A character that was begun goes on with a byte within its bounds. -/
theorem exists_byte (h : none ∉ scanFrom (some ⟨value, owed, low, high⟩) bs) :
    ∃ b rest, b < 256 ∧ low ≤ b ∧ b ≤ high ∧ bs = UInt8.ofNat b :: rest := by
  cases bs with
  | nil => simp [scanFrom] at h
  | cons y bs =>
    by_cases hin : low ≤ y.toNat ∧ y.toNat ≤ high
    · exact ⟨y.toNat, bs, y.toNat_lt, hin.1, hin.2, by simp⟩
    · rw [scanFrom, if_neg hin] at h
      split at h <;> simp at h

theorem toNat_val_ofNat (h : value < 0xD800 ∨ 0xDFFF < value ∧ value < 0x110000) :
    (Char.ofNat value).val.toNat = value := by
  have hvalid : value.isValidChar := h
  rw [Char.ofNat, dif_pos hvalid]
  rfl

theorem encodeChar_one (ha : a < 0x80) :
    String.utf8EncodeChar (Char.ofNat a) = [UInt8.ofNat a] := by
  rw [String.utf8EncodeChar, toNat_val_ofNat (by omega)]
  exact if_pos (by omega)

theorem encodeChar_two (ha : 0xC2 ≤ a ∧ a < 0xE0) (hb : 0x80 ≤ b ∧ b ≤ 0xBF) :
    String.utf8EncodeChar (Char.ofNat (64 * (a - 0xC0) + (b - 0x80))) =
      [UInt8.ofNat a, UInt8.ofNat b] := by
  rw [String.utf8EncodeChar, toNat_val_ofNat (by omega), if_neg (by omega), if_pos (by omega)]
  congr <;> omega

theorem encodeChar_three (ha : 0xE0 ≤ a ∧ a < 0xF0) (hb : 0x80 ≤ b ∧ b ≤ 0xBF)
    (hlow : a = 0xE0 → 0xA0 ≤ b) (hhigh : a = 0xED → b ≤ 0x9F) (hc : 0x80 ≤ c ∧ c ≤ 0xBF) :
    String.utf8EncodeChar (Char.ofNat (64 * (64 * (a - 0xE0) + (b - 0x80)) + (c - 0x80))) =
      [UInt8.ofNat a, UInt8.ofNat b, UInt8.ofNat c] := by
  rw [String.utf8EncodeChar, toNat_val_ofNat (by omega), if_neg (by omega), if_neg (by omega),
    if_pos (by omega)]
  congr <;> omega

theorem encodeChar_four (ha : 0xF0 ≤ a ∧ a < 0xF5) (hb : 0x80 ≤ b ∧ b ≤ 0xBF)
    (hlow : a = 0xF0 → 0x90 ≤ b) (hhigh : a = 0xF4 → b ≤ 0x8F) (hc : 0x80 ≤ c ∧ c ≤ 0xBF)
    (hd : 0x80 ≤ d ∧ d ≤ 0xBF) :
    String.utf8EncodeChar
        (Char.ofNat (64 * (64 * (64 * (a - 0xF0) + (b - 0x80)) + (c - 0x80)) + (d - 0x80))) =
      [UInt8.ofNat a, UInt8.ofNat b, UInt8.ofNat c, UInt8.ofNat d] := by
  rw [String.utf8EncodeChar, toNat_val_ofNat (by omega), if_neg (by omega), if_neg (by omega),
    if_neg (by omega)]
  congr <;> omega

/-- Where no piece is malformed, the bytes begin with those of a character. -/
theorem exists_encodeChar {y : UInt8} (h : none ∉ scanFrom none (y :: bs)) :
    ∃ x rest, y :: bs = String.utf8EncodeChar x ++ rest := by
  obtain ⟨a, ha, rfl⟩ : ∃ a, a < 256 ∧ y = UInt8.ofNat a := ⟨y.toNat, y.toNat_lt, by simp⟩
  by_cases hone : a < 0x80
  · exact ⟨_, bs, by rw [encodeChar_one hone]; rfl⟩
  by_cases htwo : 0xC2 ≤ a ∧ a < 0xE0
  · rw [scanFrom_begin ha (first_two htwo)] at h
    obtain ⟨b, bs, -, hb₁, hb₂, rfl⟩ := exists_byte h
    exact ⟨_, bs, by rw [encodeChar_two htwo ⟨hb₁, hb₂⟩]; rfl⟩
  by_cases hthree : 0xE0 ≤ a ∧ a < 0xF0
  · rw [scanFrom_begin ha (first_three hthree)] at h
    obtain ⟨b, bs, hb, hb₁, hb₂, rfl⟩ := exists_byte h
    rw [scanFrom_more hb hb₁ hb₂ (by omega)] at h
    obtain ⟨c, bs, -, hc₁, hc₂, rfl⟩ := exists_byte h
    have hsecond : (0x80 ≤ b ∧ b ≤ 0xBF) ∧ (a = 0xE0 → 0xA0 ≤ b) ∧ (a = 0xED → b ≤ 0x9F) := by
      split at hb₁ <;> split at hb₂ <;> omega
    have hbytes := encodeChar_three hthree hsecond.1 hsecond.2.1 hsecond.2.2 ⟨hc₁, hc₂⟩
    exact ⟨_, bs, by rw [hbytes]; rfl⟩
  by_cases hfour : 0xF0 ≤ a ∧ a < 0xF5
  · rw [scanFrom_begin ha (first_four hfour)] at h
    obtain ⟨b, bs, hb, hb₁, hb₂, rfl⟩ := exists_byte h
    rw [scanFrom_more hb hb₁ hb₂ (by omega)] at h
    obtain ⟨c, bs, hc, hc₁, hc₂, rfl⟩ := exists_byte h
    rw [scanFrom_more hc hc₁ hc₂ (by omega)] at h
    obtain ⟨d, bs, -, hd₁, hd₂, rfl⟩ := exists_byte h
    have hsecond : (0x80 ≤ b ∧ b ≤ 0xBF) ∧ (a = 0xF0 → 0x90 ≤ b) ∧ (a = 0xF4 → b ≤ 0x8F) := by
      split at hb₁ <;> split at hb₂ <;> omega
    have hbytes := encodeChar_four hfour hsecond.1 hsecond.2.1 hsecond.2.2 ⟨hc₁, hc₂⟩ ⟨hd₁, hd₂⟩
    exact ⟨_, bs, by rw [hbytes]; rfl⟩
  have hfirst : first a = .malformed := by
    rw [first, if_neg hone]
    split
    · rfl
    · rw [if_neg (by omega), if_neg (by omega), if_neg (by omega)]
  rw [scanFrom, toNat_ofNat_of_lt ha, hfirst] at h
  exact absurd List.mem_cons_self h

/-- Bytes without a malformed piece are those of a text. -/
theorem exists_encode : ∀ {bs : List UInt8}, none ∉ scanFrom none bs → ∃ t, bs = encode t
  | [], _ => ⟨[], rfl⟩
  | y :: bs, h => by
    obtain ⟨x, rest, hx⟩ := exists_encodeChar h
    rw [hx, scanFrom_encodeChar] at h
    have hlength : rest.length ≤ bs.length := by
      have hpos := List.length_pos_iff.2 (String.utf8EncodeChar_ne_nil (c := x))
      have hsame := congrArg List.length hx
      simp only [List.length_cons, List.length_append] at hsame
      omega
    obtain ⟨t, rfl⟩ := exists_encode fun hmem => h (List.mem_cons_of_mem _ hmem)
    exact ⟨x :: t, hx⟩
termination_by bs => bs.length

theorem eq_map_some_of_mapM : ∀ {l : List (Option Char)} {t : List Char}, l.mapM id = some t →
    l = t.map some
  | [], t, h => by
    obtain rfl : [] = t := Option.some.inj h
    rfl
  | x :: l, t, h => by
    rw [List.mapM_cons] at h
    obtain ⟨c, hc, hl⟩ := Option.bind_eq_some_iff.1 h
    obtain ⟨t', ht, hcons⟩ := Option.bind_eq_some_iff.1 hl
    rw [show x = some c from hc, eq_map_some_of_mapM ht, ← Option.some.inj hcons]
    rfl

/-- Bytes are read as a text exactly when they are the bytes of that text. -/
theorem decode?_eq_some_iff {t : List Char} : decode? bs = some t ↔ bs = encode t := by
  refine ⟨fun h => ?_, fun h => h ▸ decode?_encode t⟩
  have hnone : none ∉ scanFrom none bs := by
    rw [← scan, eq_map_some_of_mapM h]
    simp
  obtain ⟨t', rfl⟩ := exists_encode hnone
  rw [decode?_encode] at h
  rw [Option.some.inj h]

end Soql.Utf8
