/-
# What a value that was read is made of

A reader that goes `d` deep returns values that are nested at most `d` deep, and whole
numbers that have 64 bits. A number that does not fit is read as a floating point number.

Key definitions: `Json.Fits`.
Key theorems: `Json.fits_of_readNested`.
-/
import Soql.Json.Reader
import Soql.Proofs.Outcome

namespace Soql.Json

open Text

/-- A whole number of 64 bits, with a sign when it is negative. -/
def IsWhole64 (n : Int) : Prop := Int64.minValue.toInt ≤ n ∧ n < UInt64.size

instance (n : Int) : Decidable (IsWhole64 n) := inferInstanceAs (Decidable (_ ∧ _))

/-- Lists and objects stand in each other up to `depth` deep, and whole numbers have 64 bits. -/
inductive Fits : (depth : Nat) → Json → Prop where
  | null {d} : Fits d .null
  | bool {d} (b) : Fits d (.bool b)
  | int {d n} (h : IsWhole64 n) : Fits d (.int n)
  | real {d} (x) : Fits d (.real x)
  | str {d} (s) : Fits d (.str s)
  | arr {d vs} (h : ∀ v ∈ vs, Fits d v) : Fits (d + 1) (.arr vs)
  | obj {d ms} (h : ∀ m ∈ ms, Fits d m.2) : Fits (d + 1) (.obj ms)

/-! ### Numbers -/

theorem gather_lt : ∀ {n : Nat} (s : List Char), n < UInt64.size → (gather n s).1 < UInt64.size
  | _, [], h => h
  | n, c :: s, h => by
    rw [gather]
    split
    · rename_i hc
      exact gather_lt s hc
    · exact h

theorem fits_of_value? {t : NumberText} {v : Json} (h : t.value? = some v) (d : Nat) :
    Fits d v := by
  have hsize := gather_lt t.digits (show 0 < UInt64.size by decide)
  have hreal : ∀ x : Option Binary64, x.map Json.real = some v → Fits d v := by
    intro x hx
    obtain ⟨y, -, rfl⟩ := Option.map_eq_some_iff.1 hx
    exact .real y
  have hzero : ∀ (b : Bool) (x : Binary64), (if b then none else some (.real x)) = some v →
      Fits d v := by
    intro b x hx
    cases b with
    | true => cases hx
    | false =>
      obtain rfl := Option.some.inj hx
      exact .real x
  simp only [NumberText.value?] at h
  split at h
  · rename_i down ds _
    by_cases hbig : Int32.maxValue.toInt < readDigits 0 ds
    · rw [if_pos hbig] at h
      exact hzero _ _ h
    · rw [if_neg hbig] at h
      exact hreal _ h
  · split at h
    · exact hreal _ h
    · split at h
      · obtain rfl := Option.some.inj h
        refine .int ⟨?_, by omega⟩
        have : Int64.minValue.toInt < 0 := by decide
        omega
      · split at h
        · exact hreal _ h
        · rename_i hlow
          obtain rfl := Option.some.inj h
          simp only [Bool.or_eq_true, decide_eq_true_eq, not_or] at hlow
          refine .int ⟨by omega, ?_⟩
          omega

theorem fits_of_readNumberValue {care : Care} {s r : List Char} {v : Json}
    (h : readNumberValue care s = .ok (v, r)) (d : Nat) : Fits d v := by
  unfold readNumberValue at h
  split at h
  · cases h
  · split at h
    · rename_i hv
      obtain ⟨rfl, -⟩ := Prod.mk.inj (Except.ok.inj h)
      exact fits_of_value? hv d
    · split at h
      · obtain ⟨rfl, -⟩ := Prod.mk.inj (Except.ok.inj h)
        exact .null
      · cases h

/-! ### Lists and objects -/

variable {read : List Char → Except Fault (Json × List Char)} {P : Json → Prop}

theorem forall_of_readItems (hread : ∀ {s v r}, read s = .ok (v, r) → P v) :
    ∀ {n : Nat} {s r : List Char} {vs : List Json}, readItems read n s = .ok (vs, r) →
      ∀ v ∈ vs, P v
  | 0, _, _, _, h => by cases h
  | n + 1, s, r, vs, h => by
    rw [readItems] at h
    obtain ⟨⟨v, s'⟩, hv, h⟩ := bind_eq_ok.1 h
    simp only at h
    split at h
    · obtain ⟨⟨ws, s''⟩, hws, h⟩ := bind_eq_ok.1 h
      obtain ⟨rfl, -⟩ := Prod.mk.inj (Except.ok.inj h)
      exact List.forall_mem_cons.2 ⟨hread hv, forall_of_readItems hread hws⟩
    · obtain ⟨rfl, -⟩ := Prod.mk.inj (Except.ok.inj h)
      exact List.forall_mem_cons.2 ⟨hread hv, fun _ hw => absurd hw List.not_mem_nil⟩
    · cases h

theorem forall_of_readMembers {care : Care} (hread : ∀ {s v r}, read s = .ok (v, r) → P v) :
    ∀ {n : Nat} {s r : List Char} {ms : List (String × Json)},
      readMembers care read n s = .ok (ms, r) → ∀ m ∈ ms, P m.2
  | 0, _, _, _, h => by cases h
  | n + 1, s, r, ms, h => by
    rw [readMembers] at h
    obtain ⟨⟨name, s₁⟩, -, h⟩ := bind_eq_ok.1 h
    obtain ⟨⟨v, s₂⟩, hv, h⟩ := bind_eq_ok.1 h
    simp only at h
    split at h
    · obtain ⟨⟨es, s₃⟩, hes, h⟩ := bind_eq_ok.1 h
      obtain ⟨rfl, -⟩ := Prod.mk.inj (Except.ok.inj h)
      exact List.forall_mem_cons.2 ⟨hread hv, forall_of_readMembers hread hes⟩
    · obtain ⟨rfl, -⟩ := Prod.mk.inj (Except.ok.inj h)
      exact List.forall_mem_cons.2 ⟨hread hv, fun _ he => absurd he List.not_mem_nil⟩
    · cases h

/-! ### Values -/

/-- A value that was read fits at any depth, or it is a list or an object with parts that were
read one level further down. -/
theorem readNested_cases {care : Care} {n d : Nat} {s r : List Char} {v : Json}
    (h : readNested care n d s = .ok (v, r)) :
    (∀ d, Fits d v) ∨
    (∃ e vs, d = e + 1 ∧ v = .arr vs ∧
      (vs = [] ∨ ∃ s, readItems (readNested care n e) n s = .ok (vs, r))) ∨
    (∃ e ms, d = e + 1 ∧ v = .obj ms ∧
      (ms = [] ∨ ∃ s, readMembers care (readNested care n e) n s = .ok (ms, r))) := by
  rw [readNested.eq_def] at h
  simp only at h
  split at h
  · cases h
  · obtain ⟨_, -, h⟩ := bind_eq_ok.1 h
    obtain ⟨rfl, -⟩ := Prod.mk.inj (Except.ok.inj h)
    exact .inl fun _ => .null
  · obtain ⟨_, -, h⟩ := bind_eq_ok.1 h
    obtain ⟨rfl, -⟩ := Prod.mk.inj (Except.ok.inj h)
    exact .inl fun _ => .bool true
  · obtain ⟨_, -, h⟩ := bind_eq_ok.1 h
    obtain ⟨rfl, -⟩ := Prod.mk.inj (Except.ok.inj h)
    exact .inl fun _ => .bool false
  · obtain ⟨_, -, h⟩ := bind_eq_ok.1 h
    obtain ⟨rfl, -⟩ := Prod.mk.inj (Except.ok.inj h)
    exact .inl fun _ => .str _
  · split at h
    · cases h
    · split at h
      · obtain ⟨rfl, -⟩ := Prod.mk.inj (Except.ok.inj h)
        exact .inr (.inl ⟨_, _, rfl, rfl, .inl rfl⟩)
      · obtain ⟨⟨vs, r'⟩, hvs, h⟩ := bind_eq_ok.1 h
        obtain ⟨rfl, rfl⟩ := Prod.mk.inj (Except.ok.inj h)
        exact .inr (.inl ⟨_, _, rfl, rfl, .inr ⟨_, hvs⟩⟩)
  · split at h
    · cases h
    · split at h
      · obtain ⟨rfl, -⟩ := Prod.mk.inj (Except.ok.inj h)
        exact .inr (.inr ⟨_, _, rfl, rfl, .inl rfl⟩)
      · obtain ⟨⟨ms, r'⟩, hms, h⟩ := bind_eq_ok.1 h
        obtain ⟨rfl, rfl⟩ := Prod.mk.inj (Except.ok.inj h)
        exact .inr (.inr ⟨_, _, rfl, rfl, .inr ⟨_, hms⟩⟩)
  · split at h
    · exact .inl fun _ => fits_of_readNumberValue h _
    · cases h

/-- A value that was read is nested no deeper than the reader goes. -/
theorem fits_of_readNested {care : Care} {n : Nat} : ∀ {d : Nat} {s r : List Char} {v : Json},
    readNested care n d s = .ok (v, r) → Fits d v := by
  intro d
  induction d with
  | zero =>
    intro s r v h
    obtain hv | ⟨e, vs, hd, -⟩ | ⟨e, ms, hd, -⟩ := readNested_cases h
    · exact hv 0
    · cases hd
    · cases hd
  | succ d ih =>
    intro s r v h
    obtain hv | ⟨e, vs, hd, rfl, hvs⟩ | ⟨e, ms, hd, rfl, hms⟩ := readNested_cases h
    · exact hv (d + 1)
    · obtain rfl := Nat.succ.inj hd
      obtain rfl | ⟨t, hvs⟩ := hvs
      · exact .arr fun _ hv => absurd hv List.not_mem_nil
      · exact .arr (forall_of_readItems ih hvs)
    · obtain rfl := Nat.succ.inj hd
      obtain rfl | ⟨t, hms⟩ := hms
      · exact .obj fun _ hm => absurd hm List.not_mem_nil
      · exact .obj (forall_of_readMembers ih hms)

end Soql.Json
