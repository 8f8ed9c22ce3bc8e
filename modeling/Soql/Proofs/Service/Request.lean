/-
# Requests are read from whatever writes them

A request is an object with the name of its kind under `type`, which may stand anywhere among
its members. The fields of the kind are looked at once the object was read.

Key theorems: `Request.takesAll_kind`, `Request.read_eq_ok`.
-/
import Soql.Proofs.Json.Fields
import Soql.Proofs.Json.Record
import Soql.Service.Request

namespace Soql.Request

open Json Text

theorem takes_kind {d : Draft} (hd : d.kind = none) {name : String} {kind : Kind}
    (hk : choose Kind.names name = .ok kind) :
    Takes readField d ("type", .str name) { d with kind := some kind } := by
  intro g t r hg ht hr
  obtain ⟨g', x, hg', hx, hname⟩ := readName_memberText hg ht r
  obtain ⟨u, rfl⟩ : ∃ u, x = '"' :: u := by cases hx; exact ⟨_, rfl⟩
  have hnested := nested_text (.str name) (.str name) mayGaps_nil hx hr
  have hread : readKind (g' ++ ('"' :: u ++ r)) = .ok (kind, r) := by
    rw [readKind, skipGaps_gaps hg', List.cons_append, skipGaps_cons (by rfl)]
    simp only [List.nil_append, List.cons_append] at hnested
    show (orFault (nested ('"' :: (u ++ r))) >>= _) = _
    simp only [orFault, hnested, mapError_ok, ok_bind, orMismatch, hk, pure_eq_ok]
  rw [readField, hname]
  simp only [orFault, mapError_ok, ok_bind, if_true, hd, Option.isSome_none, Bool.false_eq_true,
    if_false, hread, pure_eq_ok]

theorem takes_member (d : Draft) {name : String} {v : Json} (hn : name ≠ "type")
    (hv : Plain (maxDepth - 1) v) :
    Takes readField d (name, v) { d with members := d.members ++ [(name, v)] } := by
  intro g t r hg ht hr
  obtain ⟨g', x, hg', hx, hname⟩ := readName_memberText hg ht r
  have hnested := nested_text hv.fits hv.floatFree hg' hx hr
  rw [readField, hname]
  simp only [orFault, mapError_ok, ok_bind, hn, if_false, hnested, pure_eq_ok]

theorem takesAll_members {ms : List (String × Json)} (hn : ∀ m ∈ ms, m.1 ≠ "type")
    (hv : ∀ m ∈ ms, Plain (maxDepth - 1) m.2) (d : Draft) :
    TakesAll readField d ms { d with members := d.members ++ ms } := by
  induction ms generalizing d with
  | nil => simpa using TakesAll.nil
  | cons m ms ih =>
    obtain ⟨hn, hns⟩ := List.forall_mem_cons.1 hn
    obtain ⟨hv, hvs⟩ := List.forall_mem_cons.1 hv
    refine .cons (takes_member d hn hv) ?_
    simpa using ih hns hvs { d with members := d.members ++ [m] }

/-- The kind may stand anywhere among the members. -/
theorem takesAll_kind {as bs : List (String × Json)} {name : String} {kind : Kind}
    (hk : choose Kind.names name = .ok kind) (hn : ∀ m ∈ as ++ bs, m.1 ≠ "type")
    (hv : ∀ m ∈ as ++ bs, Plain (maxDepth - 1) m.2) :
    TakesAll readField ⟨none, []⟩ (as ++ ("type", .str name) :: bs) ⟨some kind, as ++ bs⟩ := by
  rw [List.forall_mem_append] at hn hv
  exact (takesAll_members hn.1 hv.1 ⟨none, []⟩).append
    (.cons (takes_kind rfl hk) (takesAll_members hn.2 hv.2 ⟨some kind, as⟩))

/-- A request is read from whatever writes it. -/
theorem read_eq_ok {fields : Named (Option Json → Prop)} {ms : List (String × Json)}
    {name : String} {kind : Kind} {request : Request} {line : String}
    (h : WritesRecord (("type", present (· = .str name)) :: fields) ms)
    (ht : "type" ∉ fields.map (·.1)) (hk : choose Kind.names name = .ok kind)
    (hv : ∀ m ∈ ms, Plain (maxDepth - 1) m.2)
    (hof : ∀ ms', WritesRecord fields ms' → ofMembers ms' kind = .ok request)
    (hline : Document line.toList (.obj ms)) : read line = .ok request := by
  have htype := h.field _ List.mem_cons_self
  cases hget : Named.get? "type" ms with
  | none =>
    rw [hget] at htype
    exact htype.elim
  | some v =>
    rw [hget] at htype
    obtain rfl : v = .str name := htype
    obtain ⟨as, bs, rfl⟩ := List.append_of_mem (Named.mem_of_get? hget)
    obtain ⟨hn, hrest⟩ := h.without ht
    have hv' : ∀ m ∈ as ++ bs, Plain (maxDepth - 1) m.2 := fun m hm => by
      refine hv m ?_
      simp only [List.mem_append, List.mem_cons] at hm ⊢
      tauto
    generalize hchars : line.toList = t at hline
    cases hline with
    | @mk g u g' _ before value after =>
      obtain ⟨s, rfl, hfields⟩ := readFields_text (takesAll_kind hk hn hv') value
      have hobject : readObject (s ++ g') = .ok (request, g') := by
        rw [readObject, hfields g']
        simp only [ok_bind, hof _ hrest, orMismatch, mapError_ok, pure_eq_ok]
      rw [read, hchars, skipGaps_gaps before, List.cons_append, skipGaps_cons (by rfl)]
      show (readObject (s ++ g') >>= _) = _
      simp only [hobject, ok_bind, expectEnd_gaps after, orFault, mapError_ok, pure_eq_ok]

end Soql.Request
