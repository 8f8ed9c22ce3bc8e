/-
# The limit that is typed

The text of a form ends in a limit exactly when what was typed, without the blanks around it, writes
a number from 1 to 4294967295; the limit is that number then, in its shortest decimal. Whatever else
is typed leaves no trace. The number of digits does not matter: zeros in front do not count, and no
number is so large that it is taken for a smaller one.

Key definitions: `Form.LimitsTo`.
Key theorems: `Form.limitsTo_iff`, `Form.readLimit?_eq_some_iff`, `Form.readLimit?_eq_readWord?`,
`Form.text_setLimit`, `Form.limited_exactly`.
-/
import Soql.Proofs.Query.Form
import Soql.Proofs.Text.Decimal

namespace Soql

open Text

/-! ### The limit in the text of a query -/

namespace Query

variable {l : Option UInt32} {n : Nat}

theorem renderLimit_eq_empty_iff : renderLimit l = "" ↔ l = none := by
  cases l with
  | none => simp [renderLimit]
  | some m => simp [renderLimit]

theorem renderLimit_eq_iff :
    renderLimit l = " LIMIT " ++ toString n ↔ ∃ m, l = some m ∧ m.toNat = n := by
  cases l with
  | none => simp [renderLimit]
  | some m =>
    have hsome : renderLimit (some m) = " LIMIT " ++ toString m.toNat := rfl
    rw [hsome, String.append_right_inj, toString_eq_iff]
    simp

/-- The limit is the end of the text. -/
theorem compile_eq_append (q : Query) :
    q.compile = { q with limit := none }.compile ++ renderLimit q.rowLimit := by
  have hnone : renderLimit { q with limit := none }.rowLimit = "" := rfl
  rw [compile, compile, hnone, String.append_empty]
  rfl

end Query

/-! ### What limits a query -/

theorem not_isBlank_of_isDigit {c : Char} (h : c.isDigit = true) : isBlank c = false := by
  obtain ⟨hvalue, hle⟩ := digitValue_of_isDigit h
  have hascii : c.toNat < 128 := by omega
  have hnot : ¬(c.toNat = 32 ∨ 9 ≤ c.toNat ∧ c.toNat ≤ 13) := by omega
  simpa [isBlank, hascii] using hnot

/-- Digits have no blanks around them. -/
theorem Text.DigitsOf.trim_eq {n : Nat} {s : List Char} (h : DigitsOf n s) : trim s = s := by
  have hlast := List.dropLast_concat_getLast h.nonempty
  have hend := h.digits _ (List.getLast_mem h.nonempty)
  refine trim_eq_self hlast.symm (not_isBlank_of_isDigit hend) fun c hc => ?_
  exact not_isBlank_of_isDigit (h.digits c (List.mem_of_mem_head? hc))

namespace Form

variable {typed : String} {n : Nat}

/-- What was typed writes a number of rows to which a query can be limited. -/
structure LimitsTo (typed : String) (n : Nat) : Prop where
  number : WritesNat n (trim typed.toList)
  pos : 1 ≤ n
  fits : n ≤ 4294967295

theorem limitsTo_iff : LimitsTo typed n ↔ 1 ≤ n ∧ n ≤ 4294967295 ∧
    ∃ sign ∈ [[], ['+']], ∃ k,
      trim typed.toList = sign ++ (List.replicate k '0' ++ (toString n).toList) := by
  rw [Nat.toString_eq_repr, Nat.toList_repr]
  constructor
  · intro h
    exact ⟨h.pos, h.fits, (writesNat_iff_toDigits h.pos).1 h.number⟩
  · rintro ⟨hpos, hfits, hnumber⟩
    exact ⟨(writesNat_iff_toDigits hpos).2 hnumber, hpos, hfits⟩

/-- The decimal of a limit limits to it. -/
theorem limitsTo_toString (hpos : 1 ≤ n) (hfits : n ≤ 4294967295) : LimitsTo (toString n) n := by
  have hdigits := digitsOf_toString n
  refine ⟨?_, hpos, hfits⟩
  rw [hdigits.trim_eq]
  exact .unsigned hdigits

theorem readLimit?_eq_some_iff {m : UInt32} :
    readLimit? typed = some m ↔ LimitsTo typed m.toNat := by
  constructor
  · intro h
    unfold readLimit? at h
    split at h
    · rename_i n hn
      split at h
      · rename_i hrange
        obtain rfl := Option.some.inj h
        rw [UInt32.toNat_ofNat_of_lt' hrange.2]
        exact ⟨readNat?_eq_some_iff.1 hn, hrange.1, Nat.le_of_lt_succ hrange.2⟩
      · cases h
    · cases h
  · rintro ⟨hnumber, hpos, -⟩
    have hlt : m.toNat < UInt32.size := m.toNat_lt
    rw [readLimit?, readNat?_eq_some_iff.2 hnumber]
    show (if 0 < m.toNat ∧ m.toNat < UInt32.size then some (UInt32.ofNat m.toNat) else none) = _
    rw [if_pos ⟨hpos, hlt⟩, UInt32.ofNat_toNat]

theorem exists_readLimit?_iff :
    (∃ m, readLimit? typed = some m ∧ m.toNat = n) ↔ LimitsTo typed n := by
  constructor
  · rintro ⟨m, hm, rfl⟩
    exact readLimit?_eq_some_iff.1 hm
  · intro h
    have hn : (UInt32.ofNat n).toNat = n := UInt32.toNat_ofNat_of_lt' (Nat.lt_succ_of_le h.fits)
    exact ⟨UInt32.ofNat n, readLimit?_eq_some_iff.2 (by rwa [hn]), hn⟩

theorem readLimit?_eq_none_iff : readLimit? typed = none ↔ ∀ n, ¬LimitsTo typed n := by
  rw [Option.eq_none_iff_forall_ne_some]
  constructor
  · intro h n hn
    obtain ⟨m, hm, -⟩ := exists_readLimit?_iff.2 hn
    exact h m hm
  · intro h m hm
    exact h m.toNat (readLimit?_eq_some_iff.1 hm)

/-- The limit is the number that is put together digit by digit in 32 bits, unless it is zero. -/
theorem readLimit?_eq_readWord? (typed : String) :
    readLimit? typed = (readWord? (trim typed.toList)).filter (0 < ·) := by
  refine Option.ext fun m => ?_
  have hlt := m.toNat_lt
  rw [readLimit?_eq_some_iff, Option.filter_eq_some_iff, readWord?_eq_some_iff, decide_eq_true_eq,
    UInt32.lt_iff_toNat_lt]
  exact ⟨fun h => ⟨h.number, h.pos⟩, fun ⟨hnumber, hpos⟩ => ⟨hnumber, hpos, by omega⟩⟩

/-! ### The text of a form -/

/-- What is read of a form is above zero, so compiling keeps it. -/
theorem rowLimit_query (f : Form) : f.query.rowLimit = readLimit? f.limitText := by
  show (readLimit? f.limitText).filter (0 < ·) = readLimit? f.limitText
  cases h : readLimit? f.limitText with
  | none => rfl
  | some m => simp [pos_of_readLimit? h]

/-- Setting the limit changes the end of the text only. -/
theorem text_setLimit (f : Form) (typed : String) :
    (f.setLimit typed).text = (f.setLimit "").text ++ Query.renderLimit (readLimit? typed) := by
  have hempty : (f.setLimit "").query = { (f.setLimit typed).query with limit := none } := rfl
  calc (f.setLimit typed).text = (f.setLimit typed).query.compile := rfl
    _ = { (f.setLimit typed).query with limit := none }.compile ++
        Query.renderLimit (f.setLimit typed).query.rowLimit := Query.compile_eq_append _
    _ = (f.setLimit "").text ++ Query.renderLimit (readLimit? typed) := by
        rw [← hempty, rowLimit_query]
        rfl

/-- Whatever a form has been through, its limit is what is put together in 32 bits of the digits
that were typed, unless that is zero. Its text ends in the limit `n` exactly when what was typed
limits to `n`, and is the text without a limit exactly when it limits to no number. A text limits to
`n`, from 1 to 4294967295, when it is the decimal of `n` with zeros in front or none and a plus sign
or none, among blanks. To type the limit that the text shows leaves the text as it is. -/
theorem limited_exactly (f : Form) (typed : String) :
    let plain := (f.setLimit "").text
    let text := (f.setLimit typed).text
    (f.setLimit typed).query.limit = (readWord? (trim typed.toList)).filter (0 < ·) ∧
    (∀ n : Nat, text = plain ++ " LIMIT " ++ toString n ↔ LimitsTo typed n) ∧
    (text = plain ↔ ∀ n, ¬LimitsTo typed n) ∧
    (∀ n : Nat, LimitsTo typed n ↔ 1 ≤ n ∧ n ≤ 4294967295 ∧ ∃ sign ∈ [[], ['+']], ∃ k,
      trim typed.toList = sign ++ (List.replicate k '0' ++ (toString n).toList)) ∧
    ∀ n, LimitsTo typed n → ((f.setLimit typed).setLimit (toString n)).text = text := by
  intro plain text
  have htext : text = plain ++ Query.renderLimit (readLimit? typed) := text_setLimit f typed
  refine ⟨readLimit?_eq_readWord? typed, fun n => ?_, ?_, fun n => limitsTo_iff, fun n hn => ?_⟩
  · rw [htext, String.append_assoc, String.append_right_inj, Query.renderLimit_eq_iff]
    exact exists_readLimit?_iff
  · rw [htext, String.append_eq_left_iff, Query.renderLimit_eq_empty_iff]
    exact readLimit?_eq_none_iff
  · obtain ⟨m, hm, rfl⟩ := exists_readLimit?_iff.2 hn
    have hagain : readLimit? (toString m.toNat) = some m :=
      readLimit?_eq_some_iff.2 (limitsTo_toString hn.pos hn.fits)
    have hplain : ((f.setLimit typed).setLimit "").text = plain := rfl
    rw [text_setLimit, hplain, hagain, htext, hm]

/-- The greatest limit, among blanks, and the number after it. -/
theorem limited_exactly_greatest :
    let f := run [.setObject "Lead", .pushRow ⟨"Size", .gt, "5", .or⟩, .setLimit "7"] new
    LimitsTo "\u2003+0004294967295\n" 4294967295 ∧
    (f.setLimit "\u2003+0004294967295\n").text =
      "SELECT Id FROM Lead WHERE Size > 5" ++ " LIMIT " ++ toString 4294967295 ∧
    ((f.setLimit "\u2003+0004294967295\n").setLimit (toString 4294967295)).text =
      (f.setLimit "\u2003+0004294967295\n").text ∧
    (f.setLimit "4294967296").text = "SELECT Id FROM Lead WHERE Size > 5" := by
  intro f
  have hplain : (f.setLimit "").text = "SELECT Id FROM Lead WHERE Size > 5" := by decide
  have hlimits : LimitsTo "\u2003+0004294967295\n" 4294967295 :=
    ⟨readNat?_eq_some_iff.1 (by decide), by decide, by decide⟩
  have hmore (n : Nat) : ¬LimitsTo "4294967296" n := fun h => by
    have hnumber : WritesNat 4294967296 (trim "4294967296".toList) :=
      readNat?_eq_some_iff.1 (by decide)
    have hfits := h.fits
    rw [h.number.unique hnumber] at hfits
    exact absurd hfits (by decide)
  obtain ⟨-, hshown, -, -, hagain⟩ := limited_exactly f "\u2003+0004294967295\n"
  obtain ⟨-, -, hnone, -⟩ := limited_exactly f "4294967296"
  refine ⟨hlimits, ?_, hagain _ hlimits, ?_⟩
  · rw [(hshown _).2 hlimits, hplain]
  · rw [hnone.2 hmore, hplain]

end Form

end Soql
