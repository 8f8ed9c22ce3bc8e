/-
# Records, however their members are written

A record is read from an object by its names, so neither the order of the members matters nor
what stands under other names. What an object must satisfy is said field by field: of the
value under the name of the field, or of there being none.

Key definitions: `Json.present`, `Json.presentOr`, `Json.WritesRecord`,
`Json.Accepts`, `Json.FieldReads`.
Key theorems: `Json.WritesRecord.checkMembers_eq_ok`, `Json.FieldReads.member_eq_ok`,
`Json.WritesRecord.forall_values`.
-/
import Mathlib.Data.List.Forall2
import Soql.Json.Decode
import Soql.Proofs.Named
import Soql.Proofs.Outcome

namespace Soql.Json

/-- The field is there, with a value that `p` holds of. -/
def present (p : Json → Prop) : Option Json → Prop
  | some v => p v
  | none => False

/-- The field is there, or it is left out where that says the same. -/
def presentOr (p : Json → Prop) (same : Prop) : Option Json → Prop
  | some v => p v
  | none => same

/-- The members write a record: no name of a field stands twice, the value of each field is as
it should be, and strings stand under all other names. -/
structure WritesRecord (fields : Named (Option Json → Prop)) (ms : List (String × Json)) :
    Prop where
  once : ms.Pairwise fun a b => a.1 ∈ fields.map (·.1) → a.1 ≠ b.1
  field : ∀ f ∈ fields, f.2 (Named.get? f.1 ms)
  others : ∀ m ∈ ms, m.1 ∉ fields.map (·.1) → ∃ s, m.2 = .str s

variable {fields : Named (Option Json → Prop)} {ms : List (String × Json)}

/-- The value of a name that stands once. -/
theorem get?_of_mem {names : List String} {name : String} {v : Json}
    (once : ms.Pairwise fun a b => a.1 ∈ names → a.1 ≠ b.1) (hn : name ∈ names)
    (h : (name, v) ∈ ms) : Named.get? name ms = some v := by
  induction ms with
  | nil => cases h
  | cons m ms ih =>
    obtain ⟨hm, honce⟩ := List.pairwise_cons.1 once
    obtain ⟨n, w⟩ := m
    rw [Named.get?]
    rcases List.mem_cons.1 h with heq | h
    · obtain ⟨rfl, rfl⟩ := Prod.mk.inj heq
      rw [if_pos rfl]
    · rw [if_neg fun hne : n = name => hm _ h (hne ▸ hn) hne, ih honce h]

/-- What is left of a record without one of its fields. -/
theorem WritesRecord.without {name : String} {rule : Option Json → Prop} {v : Json}
    {as bs : List (String × Json)} (hn : name ∉ fields.map (·.1))
    (h : WritesRecord ((name, rule) :: fields) (as ++ (name, v) :: bs)) :
    (∀ m ∈ as ++ bs, m.1 ≠ name) ∧ WritesRecord fields (as ++ bs) := by
  obtain ⟨-, honce, hbefore⟩ := List.pairwise_append.1 h.once
  have hfirst : name ∈ ((name, rule) :: fields).map (·.1) := List.mem_cons_self
  have hother : ∀ m ∈ as ++ bs, m.1 ≠ name := by
    intro m hm hname
    rcases List.mem_append.1 hm with hm | hm
    · exact hbefore m hm (name, v) List.mem_cons_self (hname ▸ hfirst) hname
    · exact (List.pairwise_cons.1 honce).1 m hm hfirst hname.symm
  have hsub : (as ++ bs).Sublist (as ++ (name, v) :: bs) :=
    (List.sublist_cons_self _ bs).append_left as
  refine ⟨hother, ⟨(h.once.sublist hsub).imp fun hab ha => hab (List.mem_cons_of_mem _ ha),
    fun f hf => ?_, fun m hm hnone => ?_⟩⟩
  · have hne : name ≠ f.1 := fun he => hn (he ▸ List.mem_map_of_mem (f := (·.1)) hf)
    rw [← Named.get?_append_cons (e := (name, v)) hne]
    exact h.field f (List.mem_cons_of_mem _ hf)
  · refine h.others m (hsub.subset hm) ?_
    rw [List.map_cons, List.mem_cons, not_or]
    exact ⟨hother m hm, hnone⟩

/-! A record stays one in any order, with a string under another name, and without a field that
may be left out. -/

theorem WritesRecord.perm {ms' : List (String × Json)} (h : WritesRecord fields ms)
    (hp : ms.Perm ms') : WritesRecord fields ms' := by
  have honce : ms'.Pairwise fun a b => a.1 ∈ fields.map (·.1) → a.1 ≠ b.1 :=
    h.once.perm hp fun hab hb he => hab (he ▸ hb) he.symm
  refine ⟨honce, fun f hf => ?_, fun m hm => h.others m (hp.mem_iff.2 hm)⟩
  have hname : f.1 ∈ fields.map (·.1) := List.mem_map_of_mem (f := (·.1)) hf
  have hget : Named.get? f.1 ms' = Named.get? f.1 ms := by
    cases hms : Named.get? f.1 ms with
    | some v => exact get?_of_mem honce hname (hp.mem_iff.1 (Named.mem_of_get? hms))
    | none =>
      cases hms' : Named.get? f.1 ms' with
      | none => rfl
      | some v =>
        rw [get?_of_mem h.once hname (hp.mem_iff.2 (Named.mem_of_get? hms'))] at hms
        cases hms
  exact hget ▸ h.field f hf

theorem WritesRecord.cons (h : WritesRecord fields ms) {name : String}
    (hn : name ∉ fields.map (·.1)) (s : String) : WritesRecord fields ((name, .str s) :: ms) := by
  refine ⟨List.pairwise_cons.2 ⟨fun _ _ hname => absurd hname hn, h.once⟩, fun f hf => ?_,
    List.forall_mem_cons.2 ⟨fun _ => ⟨s, rfl⟩, h.others⟩⟩
  have hne : name ≠ f.1 := fun he => hn (he ▸ List.mem_map_of_mem (f := (·.1)) hf)
  rw [Named.get?, if_neg hne]
  exact h.field f hf

theorem WritesRecord.tail {name : String} {v : Json} (h : WritesRecord fields ((name, v) :: ms))
    (hleft : ∀ rule, (name, rule) ∈ fields → rule none) : WritesRecord fields ms := by
  obtain ⟨hfirst, honce⟩ := List.pairwise_cons.1 h.once
  refine ⟨honce, fun f hf => ?_, fun m hm => h.others m (List.mem_cons_of_mem _ hm)⟩
  have hget := h.field f hf
  rw [Named.get?] at hget
  split at hget
  · rename_i hname
    have hnone : Named.get? f.1 ms = none := by
      cases hms : Named.get? f.1 ms with
      | none => rfl
      | some w =>
        exact absurd hname (hfirst _ (Named.mem_of_get? hms)
          (hname ▸ List.mem_map_of_mem (f := (·.1)) hf))
    exact hnone ▸ hleft f.2 (hname ▸ hf)
  · exact hget

/-- Members are as they should be when the fields among them are and none of these stands twice. -/
theorem checkMembers_eq_ok {checks : Named (Json → Except Mismatch Unit)} {seen : List String}
    (once : ms.Pairwise fun a b => a.1 ∈ checks.map (·.1) → a.1 ≠ b.1)
    (hseen : ∀ m ∈ ms, m.1 ∉ seen)
    (hcheck : ∀ m ∈ ms, ∀ check, checks.get? m.1 = some check → check m.2 = .ok ()) :
    checkMembers checks seen ms = .ok () := by
  induction ms generalizing seen with
  | nil => rfl
  | cons m ms ih =>
    obtain ⟨hm, honce⟩ := List.pairwise_cons.1 once
    obtain ⟨hnew, hseen⟩ := List.forall_mem_cons.1 hseen
    obtain ⟨hfirst, hcheck⟩ := List.forall_mem_cons.1 hcheck
    rw [checkMembers]
    cases hget : checks.get? m.1 with
    | none => exact ih honce hseen hcheck
    | some check =>
      have hknown : m.1 ∈ checks.map (·.1) :=
        List.mem_map_of_mem (f := (·.1)) (Named.mem_of_get? hget)
      simp only [hnew, if_false, hfirst check hget, ok_bind]
      refine ih honce (fun e he => ?_) hcheck
      rw [List.mem_cons, not_or]
      exact ⟨(hm e he hknown).symm, hseen e he⟩

theorem checks_eq_ok {α : Type} {read : Json → Except Mismatch α} {v : Json} {x : α}
    (h : read v = .ok x) : checks read v = .ok () := by
  rw [checks, h]
  rfl

theorem exists_of_forall₂ {α β : Type} {R : α → β → Prop} {l : List α} {l' : List β}
    (h : List.Forall₂ R l l') : ∀ a ∈ l, ∃ b ∈ l', R a b := by
  induction h with
  | nil => exact fun _ h => absurd h List.not_mem_nil
  | cons hab _ ih =>
    refine List.forall_mem_cons.2 ⟨⟨_, List.mem_cons_self, hab⟩, fun a ha => ?_⟩
    obtain ⟨b, hb, hr⟩ := ih a ha
    exact ⟨b, List.mem_cons_of_mem _ hb, hr⟩

/-- The check of a field accepts what the field may be. -/
def Accepts (c : String × (Json → Except Mismatch Unit)) (f : String × (Option Json → Prop)) :
    Prop :=
  c.1 = f.1 ∧ ∀ v, f.2 (some v) → c.2 v = .ok ()

/-- A record passes the check of its members when each check accepts what its field may be. -/
theorem WritesRecord.checkMembers_eq_ok {checks : Named (Json → Except Mismatch Unit)}
    (h : WritesRecord fields ms) (hc : List.Forall₂ Accepts checks fields) :
    checkMembers checks [] ms = .ok () := by
  have hnames : checks.map (·.1) = fields.map (·.1) := by
    rw [← List.forall₂_eq_eq_eq, List.forall₂_map_left_iff, List.forall₂_map_right_iff]
    exact hc.imp fun _ _ h => h.1
  refine Json.checkMembers_eq_ok (hnames ▸ h.once) (fun _ _ => List.not_mem_nil) ?_
  intro m hm check hget
  obtain ⟨f, hf, hname, hcheck⟩ := exists_of_forall₂ hc _ (Named.mem_of_get? hget)
  refine hcheck m.2 ?_
  have hname : m.1 = f.1 := hname
  rw [← get?_of_mem h.once (List.mem_map_of_mem (f := (·.1)) hf) (hname ▸ hm)]
  exact h.field f hf

/-- What the field may be is read as `x`, and so is leaving it out where that is allowed. -/
structure FieldReads {α : Type} (rule : Option Json → Prop) (read : Json → Except Mismatch α)
    (missing : Except Mismatch α) (x : α) : Prop where
  there : ∀ v, rule (some v) → read v = .ok x
  left : rule none → missing = .ok x

namespace FieldReads

variable {α : Type} {rule : Option Json → Prop} {read : Json → Except Mismatch α}
  {missing : Except Mismatch α} {x y : α} {p : Json → Prop}

theorem of_present (h : ∀ v, p v → read v = .ok x) : FieldReads (present p) read missing x :=
  ⟨h, fun h => h.elim⟩

theorem of_presentOr {same : Prop} (h : ∀ v, p v → read v = .ok x) (hsame : same → x = y) :
    FieldReads (presentOr p same) read (.ok y) x :=
  ⟨h, fun hs => congrArg Except.ok (hsame hs).symm⟩

theorem accepts (h : FieldReads rule read missing x) (name : String) :
    Accepts (name, checks read) (name, rule) :=
  ⟨rfl, fun v hv => checks_eq_ok (h.there v hv)⟩

theorem member_eq_ok (h : FieldReads rule read missing x) (hw : WritesRecord fields ms)
    (name : String) (hmem : (name, rule) ∈ fields) : member name read missing ms = .ok x := by
  have hr : rule (Named.get? name ms) := hw.field _ hmem
  rw [member]
  cases hget : Named.get? name ms with
  | some v => exact h.there v (hget ▸ hr)
  | none => exact h.left (hget ▸ hr)

end FieldReads

/-- What holds of strings and of all values that the fields may have holds of the members. -/
theorem WritesRecord.forall_values {p : Json → Prop} (h : WritesRecord fields ms)
    (hf : ∀ f ∈ fields, ∀ v, f.2 (some v) → p v) (hs : ∀ s, p (.str s)) : ∀ m ∈ ms, p m.2 := by
  intro m hm
  by_cases hname : m.1 ∈ fields.map (·.1)
  · obtain ⟨f, hmem, heq⟩ := List.mem_map.1 hname
    refine hf f hmem m.2 ?_
    rw [← get?_of_mem h.once hname hm, ← heq]
    exact h.field f hmem
  · obtain ⟨s, hv⟩ := h.others m hm hname
    exact hv ▸ hs s

end Soql.Json
