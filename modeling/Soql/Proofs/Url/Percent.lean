/-
# Percent encoding is undone

A byte is written as itself, when it is one of those that need no encoding, or as a percent sign and
two digits, in capitals or not. Whichever way each byte of a text is written, reading gives the
text again, and what is written has no character with a meaning in an address. An address without
the slashes at its end is what is left of it when all of them are taken off.

Key definitions: `Utf8.Written`, `Percent.IsDigit`, `Percent.WritesByte`, `Percent.Writes`,
`Percent.IsPlain`, `SameButSlashes`.
Key theorems: `Percent.writes_encode`, `Percent.Writes.decodeBytes_eq`, `Percent.Writes.unique`,
`Percent.Writes.isPlain`, `withoutTrailingSlashes_eq_iff`,
`withoutTrailingSlashes_eq_empty_iff`, `SameButSlashes.eq`.
-/
import Soql.Proofs.Text.Separable
import Soql.Proofs.Text.Utf8
import Soql.Url.Percent

namespace Soql

namespace Utf8

variable {way way' : UInt8 → List Char → Prop} {bs : List UInt8} {t : List Char}

/-- The text is the bytes one after another, each written in a way for it. -/
inductive Written (way : UInt8 → List Char → Prop) : List UInt8 → List Char → Prop
  | nil : Written way [] []
  | cons {b : UInt8} {u : List Char} {bs : List UInt8} {t : List Char} (byte : way b u)
      (rest : Written way bs t) : Written way (b :: bs) (u ++ t)

theorem Written.imp (h : Written way bs t) (hway : ∀ b u, way b u → way' b u) :
    Written way' bs t := by
  induction h with
  | nil => exact .nil
  | cons byte _ ih => exact .cons (hway _ _ byte) ih

theorem Written.forall_mem {p : Char → Prop} (h : Written way bs t)
    (hway : ∀ b u, way b u → ∀ c ∈ u, p c) : ∀ c ∈ t, p c := by
  induction h with
  | nil => exact fun c hc => absurd hc List.not_mem_nil
  | cons byte _ ih =>
    intro c hc
    rcases List.mem_append.1 hc with hc | hc
    · exact hway _ _ byte c hc
    · exact ih c hc

theorem decode_encode (s : List Char) : decode (encode s) = s := by
  rw [decode, scan_encode, List.map_map]
  exact List.map_id s

/-- A character below 128 is a byte. -/
theorem encode_cons {c : Char} (hc : c.toNat < 0x80) (s : List Char) :
    encode (c :: s) = UInt8.ofNat c.toNat :: encode s := by
  rw [encode, List.flatMap_cons, ← Char.ofNat_toNat c, encodeChar_one hc, Char.ofNat_toNat]
  rfl

end Utf8

namespace Percent

/-- The character is the hexadecimal digit `n`, in capitals or not. -/
def IsDigit (d : Char) (n : Nat) : Prop :=
  (n < 10 ∧ d.toNat = 48 + n) ∨ (10 ≤ n ∧ n < 16 ∧ (d.toNat = 55 + n ∨ d.toNat = 87 + n))

/-- The characters write the byte. -/
inductive WritesByte (b : UInt8) : List Char → Prop
  | plain (unreserved : isUnreserved b = true) : WritesByte b [Char.ofNat b.toNat]
  | escaped {h l : Char} (high : IsDigit h (b.toNat / 16)) (low : IsDigit l (b.toNat % 16)) :
      WritesByte b ['%', h, l]

/-- The text `t` writes the text `s`. -/
def Writes (s : String) (t : List Char) : Prop := Utf8.Written WritesByte (Utf8.encode s.toList) t

/-- The characters that write bytes. -/
def IsPlain (c : Char) : Prop :=
  c = '%' ∨ (c.toNat < 0x80 ∧ isUnreserved (UInt8.ofNat c.toNat) = true)

instance : DecidablePred IsPlain := fun _ => inferInstanceAs (Decidable (_ ∨ _))

variable {b : UInt8} {bs : List UInt8} {s : String} {t u : List Char}

/-! ### Digits -/

theorem isDigit_hexDigit {n : Nat} (h : n < 16) : IsDigit (hexDigit n) n := by
  have hall : ∀ m < 16, (hexDigit m).toNat = if m < 10 then 48 + m else 55 + m := by decide
  have hn := hall n h
  split at hn
  · exact .inl ⟨by omega, hn⟩
  · exact .inr ⟨by omega, h, .inl hn⟩

theorem IsDigit.lt {d : Char} {n : Nat} (h : IsDigit d n) : n < 16 ∧ d.toNat < 0x80 := by
  rcases h with ⟨hn, hd⟩ | ⟨-, hn, hd⟩
  · exact ⟨by omega, by omega⟩
  · exact ⟨hn, by omega⟩

theorem IsDigit.isPlain {d : Char} {n : Nat} (h : IsDigit d n) : IsPlain d := by
  have hall : ∀ m < 103, (48 ≤ m ∧ m < 58) ∨ (65 ≤ m ∧ m < 71) ∨ (97 ≤ m ∧ m < 103) →
      isUnreserved (UInt8.ofNat m) = true := by decide
  have hd : (48 ≤ d.toNat ∧ d.toNat < 58) ∨ (65 ≤ d.toNat ∧ d.toNat < 71) ∨
      (97 ≤ d.toNat ∧ d.toNat < 103) := by
    unfold IsDigit at h
    omega
  exact .inr ⟨h.lt.2, hall _ (by omega) hd⟩

/-- A digit is read as its number. -/
theorem IsDigit.hexValue? {d : Char} {n : Nat} (h : IsDigit d n) :
    hexValue? (UInt8.ofNat d.toNat) = some (UInt8.ofNat n) := by
  have hdecimal : ∀ m < 10, Percent.hexValue? (UInt8.ofNat (48 + m)) = some (UInt8.ofNat m) := by
    decide
  have hcapital : ∀ m < 16, 10 ≤ m →
      Percent.hexValue? (UInt8.ofNat (55 + m)) = some (UInt8.ofNat m) := by decide
  have hsmall : ∀ m < 16, 10 ≤ m →
      Percent.hexValue? (UInt8.ofNat (87 + m)) = some (UInt8.ofNat m) := by decide
  rcases h with ⟨hn, hd⟩ | ⟨hn, hlt, hd | hd⟩
  · rw [hd, hdecimal n hn]
  · rw [hd, hcapital n hlt hn]
  · rw [hd, hsmall n hlt hn]

theorem pair?_of_isDigit {h l : Char} (high : IsDigit h (b.toNat / 16))
    (low : IsDigit l (b.toNat % 16)) :
    pair? (UInt8.ofNat h.toNat) (UInt8.ofNat l.toNat) = some b := by
  have hsame : 16 * UInt8.ofNat (b.toNat / 16) + UInt8.ofNat (b.toNat % 16) = b := by
    calc 16 * UInt8.ofNat (b.toNat / 16) + UInt8.ofNat (b.toNat % 16)
        = UInt8.ofNat (16 * (b.toNat / 16) + b.toNat % 16) := by
          rw [UInt8.ofNat_add, UInt8.ofNat_mul]
          rfl
      _ = b := by rw [Nat.div_add_mod, UInt8.ofNat_toNat]
  rw [pair?, high.hexValue?, low.hexValue?]
  exact congrArg some hsame

/-! ### Characters -/

theorem lt_of_isUnreserved (h : isUnreserved b = true) : b.toNat < 0x80 := by
  have hall : ∀ m < 256, isUnreserved (UInt8.ofNat m) = true → m < 0x80 := by decide +kernel
  exact hall b.toNat b.toNat_lt (by rwa [UInt8.ofNat_toNat])

theorem toNat_ofNat_of_isUnreserved (h : isUnreserved b = true) :
    (Char.ofNat b.toNat).toNat = b.toNat := by
  have hlt := lt_of_isUnreserved h
  exact Utf8.toNat_val_ofNat (by omega)

theorem WritesByte.isPlain (h : WritesByte b u) : ∀ c ∈ u, IsPlain c := by
  intro c hc
  cases h with
  | plain unreserved =>
    obtain rfl := List.mem_singleton.1 hc
    have hchar := toNat_ofNat_of_isUnreserved unreserved
    refine .inr ⟨by rw [hchar]; exact lt_of_isUnreserved unreserved, ?_⟩
    rwa [hchar, UInt8.ofNat_toNat]
  | escaped high low =>
    simp only [List.mem_cons, List.not_mem_nil, or_false] at hc
    rcases hc with rfl | rfl | rfl
    · exact .inl rfl
    · exact high.isPlain
    · exact low.isPlain

theorem Writes.isPlain (h : Writes s t) : ∀ c ∈ t, IsPlain c :=
  h.forall_mem fun _ _ hbyte => hbyte.isPlain

/-- No blank and no control writes bytes, and no sign that parts an address. -/
theorem IsPlain.bounds {c : Char} (h : IsPlain c) :
    (33 ≤ c.toNat ∧ c.toNat < 0x80) ∧ c ∉ ['#', '&', '*', '+', '/', '=', '?'] := by
  have hall : ∀ m < 0x80, (m = 37 ∨ isUnreserved (UInt8.ofNat m) = true) →
      33 ≤ m ∧ Char.ofNat m ∉ ['#', '&', '*', '+', '/', '=', '?'] := by decide
  rcases h with rfl | ⟨hlt, hc⟩
  · decide
  · obtain ⟨hle, hnot⟩ := hall c.toNat hlt (.inr hc)
    rw [Char.ofNat_toNat] at hnot
    exact ⟨⟨hle, hlt⟩, hnot⟩

/-! ### Writing and reading -/

/-- A byte that is no percent sign is read as itself. -/
theorem decodeBytes_cons (hb : b ≠ 37) (bs : List UInt8) :
    decodeBytes (b :: bs) = b :: decodeBytes bs := by
  rw [decodeBytes.eq_def]
  split
  · rename_i heq
    exact absurd (List.cons.inj heq).1 hb
  · rename_i heq
    obtain ⟨rfl, rfl⟩ := List.cons.inj heq
    rfl
  · rename_i heq
    cases heq

/-- What writes a byte is read as that byte. -/
theorem WritesByte.decodeBytes_eq (h : WritesByte b u) (bs : List UInt8) :
    decodeBytes (Utf8.encode u ++ bs) = b :: decodeBytes bs := by
  cases h with
  | plain unreserved =>
    have hchar := toNat_ofNat_of_isUnreserved unreserved
    have hb : b ≠ 37 := by
      rintro rfl
      cases unreserved
    rw [Utf8.encode_cons (by rw [hchar]; exact lt_of_isUnreserved unreserved), hchar,
      UInt8.ofNat_toNat]
    exact decodeBytes_cons hb bs
  | escaped high low =>
    rw [Utf8.encode_cons (by decide), Utf8.encode_cons high.lt.2, Utf8.encode_cons low.lt.2]
    show decodeBytes (37 :: _ :: _ :: bs) = _
    rw [decodeBytes, pair?_of_isDigit high low]

theorem decodeBytes_of_written (h : Utf8.Written WritesByte bs t) :
    decodeBytes (Utf8.encode t) = bs := by
  induction h with
  | nil => rfl
  | cons byte _ ih => rw [Utf8.encode_append, byte.decodeBytes_eq, ih]

theorem Writes.decodeBytes_eq (h : Writes s t) :
    decodeBytes (Utf8.encode t) = Utf8.encode s.toList := decodeBytes_of_written h

theorem writesByte_encodeByte (b : UInt8) : WritesByte b (encodeByte b) := by
  rw [encodeByte]
  split
  · rename_i h
    exact .plain h
  · have hlt := b.toNat_lt
    exact .escaped (isDigit_hexDigit (by omega)) (isDigit_hexDigit (by omega))

theorem written_encodeBytes : ∀ bs : List UInt8, Utf8.Written WritesByte bs (encodeBytes bs)
  | [] => .nil
  | b :: bs => .cons (writesByte_encodeByte b) (written_encodeBytes bs)

theorem writes_encode (s : String) : Writes s (encode s).toList := by
  rw [encode, String.toList_ofList]
  exact written_encodeBytes _

/-- Two texts are not written alike. -/
theorem Writes.unique {s' : String} (h : Writes s t) (h' : Writes s' t) : s = s' := by
  have hbytes : Utf8.encode s.toList = Utf8.encode s'.toList := by
    rw [← h.decodeBytes_eq, h'.decodeBytes_eq]
  have hsame := congrArg Utf8.decode hbytes
  rw [Utf8.decode_encode, Utf8.decode_encode] at hsame
  exact String.toList_inj.1 hsame

end Percent

/-! ### Slashes -/

/-- An address with all the slashes at its end taken off. -/
theorem withoutTrailingSlashes_eq_iff {s t : String} : withoutTrailingSlashes s = t ↔
    (∃ n, s.toList = t.toList ++ List.replicate n '/') ∧ ∀ c ∈ t.toList.getLast?, c ≠ '/' := by
  rw [withoutTrailingSlashes, ← String.toList_inj, String.toList_ofList, trimSlashes,
    List.reverse_eq_iff]
  constructor
  · intro h
    obtain ⟨n, hslashes⟩ : ∃ n, s.toList.reverse.takeWhile (· == '/') = List.replicate n '/' :=
      ⟨_, List.eq_replicate_of_mem fun c hc => by
        simpa using List.all_eq_true.1 List.all_takeWhile c hc⟩
    have hs := List.takeWhile_append_dropWhile (p := (· == '/')) (l := s.toList.reverse)
    rw [h, hslashes] at hs
    refine ⟨⟨n, ?_⟩, fun c hc => ?_⟩
    · rw [← List.reverse_reverse s.toList, ← hs, List.reverse_append, List.reverse_reverse,
        List.reverse_replicate]
    · have hstop := Text.stopsAt_dropWhile (· == '/') s.toList.reverse
      rw [h] at hstop
      simpa using hstop c (by rwa [List.head?_reverse])
  · rintro ⟨⟨n, hs⟩, hlast⟩
    rw [hs, List.reverse_append, List.reverse_replicate,
      List.dropWhile_append_of_pos (by simp), Text.dropWhile_of_stops]
    intro c hc
    rw [List.head?_reverse] at hc
    simpa using hlast c hc

theorem withoutTrailingSlashes_eq_empty_iff {s : String} :
    withoutTrailingSlashes s = "" ↔ ∀ c ∈ s.toList, c = '/' := by
  rw [withoutTrailingSlashes_eq_iff]
  simp [List.eq_replicate_iff]

theorem getLast?_withoutTrailingSlashes (s : String) :
    ∀ c ∈ (withoutTrailingSlashes s).toList.getLast?, c ≠ '/' :=
  (withoutTrailingSlashes_eq_iff.1 rfl).2

/-- Texts that are the same up to the slashes at their ends. -/
def SameButSlashes (s t : String) : Prop :=
  ∃ u m n, s.toList = u ++ List.replicate m '/' ∧ t.toList = u ++ List.replicate n '/'

theorem SameButSlashes.eq {s t : String} (h : SameButSlashes s t) :
    withoutTrailingSlashes s = withoutTrailingSlashes t := by
  obtain ⟨u, m, n, hs, ht⟩ := h
  obtain ⟨⟨k, hu⟩, hlast⟩ :=
    withoutTrailingSlashes_eq_iff.1 (Eq.refl (withoutTrailingSlashes (.ofList u)))
  rw [String.toList_ofList] at hu
  have hsame : ∀ {r : String} {l : Nat}, r.toList = u ++ List.replicate l '/' →
      withoutTrailingSlashes r = withoutTrailingSlashes (.ofList u) := by
    intro r l hr
    refine withoutTrailingSlashes_eq_iff.2 ⟨⟨k + l, ?_⟩, hlast⟩
    rw [hr, ← List.replicate_append_replicate, ← List.append_assoc, ← hu]
  rw [hsame hs, hsame ht]

end Soql
