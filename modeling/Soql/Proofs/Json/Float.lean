/-
# Floating point numbers are written as numbers

The shortest decimal of a number that is not zero is not zero either, so its digits do not
begin with a zero. Wherever the point falls among them, what is written has a fraction or
an exponent and is a number of JSON.

Key theorems: `Binary64.shortest_ne_zero`, `Json.floatText_text`.
-/
import Soql.Number.Shortest
import Soql.Proofs.Json.Scalar

namespace Soql

namespace Binary64

/-- Zero rounds to no other number. -/
theorem roundsTo_zero {x : Binary64} (hx : x.significand ≠ 0) (k : Int) :
    x.roundsTo 0 k = false := by
  generalize hbelow : (if x.significand = leastNormal && -1074 < x.exponent then 1 else 2) = below
  have hlow : 0 < 4 * x.significand - below := by
    split at hbelow <;> omega
  have hden : 0 < Nat.pow 10 (-k).toNat <<< (x.exponent - 2).toNat := by
    rw [Nat.shiftLeft_eq]
    exact Nat.mul_pos (Nat.pow_pos (by decide)) (Nat.pow_pos (by decide))
  have hpos : ¬(4 * x.significand - below) *
      (Nat.pow 10 (-k).toNat <<< (x.exponent - 2).toNat) ≤ 0 :=
    Nat.not_le.2 (Nat.mul_pos hlow hden)
  simp only [roundsTo, Nat.zero_mul, Nat.zero_shiftLeft, hbelow]
  split
  · rw [decide_eq_false hpos, Bool.false_and]
  · rw [decide_eq_false (Nat.not_lt_zero _), Bool.false_and]

/-- Of two tries the one that is kept has passed. -/
theorem passed_of_tried {p : Nat → Int → Bool} {a b d : Nat} {k l : Int}
    (h : (if p a k then some (a, k) else if p b k then some (b, k) else none) = some (d, l)) :
    p d l = true := by
  split at h
  · rename_i ha
    obtain ⟨rfl, rfl⟩ := Prod.mk.inj (Option.some.inj h)
    exact ha
  · rw [Option.ite_none_right_eq_some] at h
    obtain ⟨rfl, rfl⟩ := Prod.mk.inj (Option.some.inj h.2)
    exact h.1

/-- A decimal that was found rounds to the number. -/
theorem roundsTo_of_withDigits {x : Binary64} {n d : Nat} {k : Int}
    (h : x.withDigits n = some (d, k)) : x.roundsTo d k = true := by
  unfold withDigits at h
  exact passed_of_tried (p := x.roundsTo) h

theorem withDigits_ne_zero {x : Binary64} (hx : x.significand ≠ 0) {n d : Nat} {k : Int}
    (h : x.withDigits n = some (d, k)) : d ≠ 0 := by
  rintro rfl
  have := roundsTo_of_withDigits h
  rw [roundsTo_zero hx] at this
  cases this

theorem stripZeros_ne_zero : ∀ (n : Nat) {d : Nat} (k : Int), d ≠ 0 → (stripZeros n d k).1 ≠ 0
  | 0, _, _, h => h
  | n + 1, d, k, h => by
    rw [stripZeros]
    split
    · rename_i hd
      simp only [Bool.and_eq_true, bne_iff_ne, decide_eq_true_eq] at hd
      exact stripZeros_ne_zero n (k + 1) (by omega)
    · exact h

theorem shortest_ne_zero {x : Binary64} (hx : x.significand ≠ 0) : x.shortest.1 ≠ 0 := by
  unfold shortest
  split
  · rename_i d k h
    obtain ⟨n, -, hn⟩ := List.exists_of_findSome?_eq_some h
    exact stripZeros_ne_zero 20 k (withDigits_ne_zero hx hn)
  · exact hx

end Binary64

namespace Json

open Text

/-- The digits of a number that is not zero do not begin with a zero. -/
theorem toDigits_eq_cons_of_ne_zero {n : Nat} (hn : n ≠ 0) : ∃ c ds, Nat.toDigits 10 n = c :: ds ∧
    c ≠ '0' ∧ ∀ x ∈ c :: ds, x.isDigit = true := by
  obtain ⟨c, ds, h, -, hz⟩ := toDigits_eq_cons n
  refine ⟨c, ds, h, fun hc => ?_, fun x hx => ?_⟩
  · obtain rfl := hc
    obtain rfl := hz rfl
    have := readDigits_toDigits n
    rw [h] at this
    exact hn this.symm
  · exact (isDigits_toDigits n).2 x (h ▸ hx)

theorem exponentText_toString {e : Char} (he : e = 'e' ∨ e = 'E') (n : Int) :
    ExponentText (e :: (toString n).toList) := by
  cases n with
  | ofNat m =>
    rw [toList_ofNat]
    exact .mark (s := []) he (by simp) (isDigits_toDigits m)
  | negSucc m =>
    rw [toList_negSucc]
    exact .mark (s := ['-']) he (by simp) (isDigits_toDigits (m + 1))

theorem wholeText_cons {c : Char} {ds : List Char} (hc : c ≠ '0')
    (hds : ∀ x ∈ c :: ds, x.isDigit = true) : WholeText (c :: ds) :=
  ⟨⟨List.cons_ne_nil _ _, hds⟩, fun h => absurd (Option.some.inj h) hc⟩

theorem isDigits_zero : IsDigits ['0'] := ⟨List.cons_ne_nil _ _, List.forall_mem_singleton.2 rfl⟩

theorem wholeText_zero : WholeText ['0'] := ⟨isDigits_zero, fun _ => rfl⟩

theorem isDigit_of_mem_zeros {n : Nat} {x : Char} (h : x ∈ List.replicate n '0') :
    x.isDigit = true := by
  rw [List.eq_of_mem_replicate h]
  rfl

/-- The digits of a number that is not zero, with the point anywhere among them. -/
theorem unsignedText_layout {c : Char} {ds : List Char} (hc : c ≠ '0')
    (hds : ∀ x ∈ c :: ds, x.isDigit = true) (point : Int) :
    UnsignedText (Binary64.layout (c :: ds) point) := by
  have hrest : ∀ x ∈ ds, x.isDigit = true := fun x hx => hds x (List.mem_cons_of_mem _ hx)
  unfold Binary64.layout
  simp only [Bool.and_eq_true, decide_eq_true_eq]
  split
  · -- zeros fill the places up to the point
    rw [List.append_assoc, ← List.append_assoc, ← List.append_nil ['.', '0']]
    refine .mk (wholeText_cons hc fun x hx => ?_) (.point isDigits_zero) .nil (.inl (by simp))
    replace hx : x ∈ (c :: ds) ++ List.replicate _ '0' := hx
    rcases List.mem_append.1 hx with hx | hx
    · exact hds x hx
    · exact isDigit_of_mem_zeros hx
  · split
    · -- the point falls between two digits
      rename_i hlong hpoint
      obtain ⟨p, hp⟩ : ∃ p : Nat, point.toNat = p + 1 := ⟨point.toNat - 1, by omega⟩
      rw [List.length_cons] at hlong
      rw [hp, List.take_succ_cons, List.drop_succ_cons, ← List.append_nil ('.' :: ds.drop p)]
      refine .mk (wholeText_cons hc fun x hx => ?_) (.point ⟨?_, fun x hx => ?_⟩) .nil
        (.inl (by simp))
      · exact hds x (List.mem_of_mem_take (i := p + 1) hx)
      · rw [Ne, List.drop_eq_nil_iff]
        omega
      · exact hrest x (List.mem_of_mem_drop hx)
    · split
      · -- zeros stand between the point and the digits
        rw [← List.append_nil (List.replicate (-point).toNat '0' ++ c :: ds)]
        refine .mk wholeText_zero (.point ⟨by simp, fun x hx => ?_⟩) .nil (.inl (by simp))
        rcases List.mem_append.1 hx with hx | hx
        · exact isDigit_of_mem_zeros hx
        · exact hds x hx
      · have hexp := exponentText_toString (.inl rfl) (point - 1)
        have hone : WholeText [c] :=
          wholeText_cons hc (List.forall_mem_singleton.2 (hds c List.mem_cons_self))
        cases ds with
        | nil => exact .mk hone .nil hexp (.inr (by simp))
        | cons d ds => exact .mk hone (.point ⟨by simp, hrest⟩) hexp (.inr (by simp))

/-- A floating point number is written with a fraction or an exponent. -/
theorem floatText_text (x : Binary64) : FloatText x.text.toList := by
  have hbody : UnsignedText (if x.significand = 0 then ['0', '.', '0'] else
      Binary64.layout (Nat.toDigits 10 x.shortest.1)
        ((Nat.toDigits 10 x.shortest.1).length + x.shortest.2)) := by
    split
    · have hfraction : FractionText ['.', '0'] := .point isDigits_zero
      exact .mk wholeText_zero hfraction .nil (.inl (by simp))
    · rename_i hx
      obtain ⟨c, ds, h, hc, hds⟩ := toDigits_eq_cons_of_ne_zero (Binary64.shortest_ne_zero hx)
      rw [h]
      exact unsignedText_layout hc hds _
  rw [Binary64.text, String.toList_ofList]
  split
  · exact .minus hbody
  · exact .plus hbody

end Json

end Soql
