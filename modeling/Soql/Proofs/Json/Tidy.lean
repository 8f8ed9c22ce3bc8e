/-
# Tidy values

A tidy value has the members of every object in the strict order of their names, so it
is what a reader keeps who has no use for the order. Tidying gives a tidy value, leaves a
tidy value as it is, and nests nothing deeper.

Key definitions: `Json.Tidy`.
Key theorems: `Json.tidy_tidy`, `Json.tidyMembers_eq`, `Json.tidy_tidyMembers`, `Json.fits_tidy`.
-/
import Soql.Proofs.Named
import Soql.Proofs.Json.Nesting

namespace Soql.Json

/-- Entries in the order of their names, over values in which the same holds. -/
structure TidyEntries (entries : Named Json) : Prop where
  sorted : entries.Sorted
  values : ∀ e ∈ entries, tidy e.2 = e.2

theorem tidyEntries_nil : TidyEntries [] :=
  ⟨List.Pairwise.nil, fun _ h => absurd h List.not_mem_nil⟩

theorem TidyEntries.put {entries : Named Json} (h : TidyEntries entries) (name : String) {v : Json}
    (hv : tidy v = v) : TidyEntries (entries.put name v) := by
  refine ⟨Named.sorted_put name v h.sorted, fun e he => ?_⟩
  rcases Named.mem_put he with rfl | he
  · exact hv
  · exact h.values e he

/-- Members that stand in their order are kept as they are. -/
theorem tidyMembers_append : ∀ {kept ms : Named Json}, TidyEntries (kept ++ ms) →
    tidyMembers kept ms = kept ++ ms
  | kept, [], _ => by rw [tidyMembers, List.append_nil]
  | kept, (name, v) :: ms, h => by
    have hlt : ∀ e ∈ kept, e.1 < name := fun e he =>
      (List.pairwise_append.1 h.sorted).2.2 e he (name, v) List.mem_cons_self
    have hv : tidy v = v := h.values (name, v) (List.mem_append_right _ List.mem_cons_self)
    have happ : kept ++ (name, v) :: ms = kept ++ [(name, v)] ++ ms := by
      rw [List.append_assoc, List.singleton_append]
    rw [tidyMembers, hv, Named.put_eq_append name v hlt, happ]
    exact tidyMembers_append (happ ▸ h)

theorem tidyMembers_eq {entries : Named Json} (h : TidyEntries entries) :
    tidyMembers [] entries = entries :=
  tidyMembers_append h

mutual

theorem tidy_tidy : ∀ v : Json, tidy (tidy v) = tidy v
  | .null => rfl
  | .bool _ => rfl
  | .int _ => rfl
  | .real _ => rfl
  | .str _ => rfl
  | .arr vs => by rw [tidy, tidy, tidyItems_tidyItems vs]
  | .obj ms => by
    rw [tidy, tidy, tidyMembers_eq (tidyEntries_tidyMembers tidyEntries_nil ms)]

theorem tidyItems_tidyItems : ∀ vs : List Json, tidyItems (tidyItems vs) = tidyItems vs
  | [] => rfl
  | v :: vs => by rw [tidyItems, tidyItems, tidy_tidy v, tidyItems_tidyItems vs]

theorem tidyEntries_tidyMembers {kept : Named Json} (hk : TidyEntries kept) :
    ∀ ms : List (String × Json), TidyEntries (tidyMembers kept ms)
  | [] => by rwa [tidyMembers]
  | (name, v) :: ms => by
    rw [tidyMembers]
    exact tidyEntries_tidyMembers (hk.put name (tidy_tidy v)) ms

end

/-! ### Depth -/

theorem tidyItems_eq_map : ∀ vs : List Json, tidyItems vs = vs.map tidy
  | [] => rfl
  | v :: vs => by rw [tidyItems, List.map_cons, tidyItems_eq_map vs]

/-- Every member that is kept was kept before, or it is one of the members, tidied. -/
theorem mem_tidyMembers {e : String × Json} : ∀ {kept : Named Json} {ms : List (String × Json)},
    e ∈ tidyMembers kept ms → e ∈ kept ∨ ∃ m ∈ ms, e.2 = tidy m.2
  | kept, [], h => .inl (by rwa [tidyMembers] at h)
  | kept, (name, v) :: ms, h => by
    rw [tidyMembers] at h
    rcases mem_tidyMembers h with h | ⟨m, hm, he⟩
    · rcases Named.mem_put h with rfl | h
      · exact .inr ⟨(name, v), List.mem_cons_self, rfl⟩
      · exact .inl h
    · exact .inr ⟨m, List.mem_cons_of_mem _ hm, he⟩

theorem fits_tidy {d : Nat} {v : Json} (h : Fits d v) : Fits d (tidy v) := by
  induction h with
  | null => exact .null
  | bool b => exact .bool b
  | int h => exact .int h
  | real x => exact .real x
  | str s => exact .str s
  | arr h ih =>
    rw [tidy, tidyItems_eq_map]
    refine .arr fun w hw => ?_
    obtain ⟨v, hv, rfl⟩ := List.mem_map.1 hw
    exact ih v hv
  | obj h ih =>
    rw [tidy]
    refine .obj fun e he => ?_
    rcases mem_tidyMembers he with he | ⟨m, hm, he⟩
    · exact absurd he List.not_mem_nil
    · rw [he]
      exact ih m hm

end Soql.Json
