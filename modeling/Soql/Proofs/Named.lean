/-
# Values in the order of their names

Putting a value under a name and erasing names keep a list in the strict order of its
names. In such a list no name stands twice, and a name greater than all others is put
at its end.

Key definitions: `Named.Sorted`.
Key theorems: `Named.sorted_put`, `Named.sorted_erase`, `Named.put_eq_append`,
`Named.get?_putAll_of_not_mem`, `Named.get?_eraseAll`.
-/
import Soql.Named

namespace Soql.Named

variable {α : Type}

/-- Each name is less than all names after it. -/
def Sorted (l : Named α) : Prop := l.Pairwise fun a b => a.1 < b.1

theorem mem_of_get? {name : String} {v : α} : ∀ {l : Named α}, get? name l = some v → (name, v) ∈ l
  | (n, w) :: rest, h => by
    rw [get?] at h
    split at h
    · rename_i hn
      obtain rfl := Option.some.inj h
      exact hn ▸ List.mem_cons_self
    · exact List.mem_cons_of_mem _ (mem_of_get? h)

/-- Other names do not matter. -/
theorem get?_append_cons {name : String} {e : String × α} (h : e.1 ≠ name) (bs : Named α) :
    ∀ as : Named α, get? name (as ++ e :: bs) = get? name (as ++ bs)
  | [] => by
    rw [List.nil_append, List.nil_append, get?, if_neg h]
  | (n, w) :: as => by
    simp only [List.cons_append, get?, get?_append_cons h bs as]

theorem mem_put {name : String} {v : α} {e : String × α} :
    ∀ {l : Named α}, e ∈ put name v l → e = (name, v) ∨ e ∈ l
  | [], h => .inl (List.mem_singleton.1 h)
  | (n, w) :: rest, h => by
    unfold put at h
    split at h
    · rcases List.mem_cons.1 h with rfl | h
      · exact .inl rfl
      · exact .inr (List.mem_cons_of_mem _ h)
    · split at h
      · exact List.mem_cons.1 h
      · rcases List.mem_cons.1 h with rfl | h
        · exact .inr List.mem_cons_self
        · rcases mem_put h with rfl | h
          · exact .inl rfl
          · exact .inr (List.mem_cons_of_mem _ h)

theorem mem_of_mem_erase {name : String} {e : String × α} :
    ∀ {l : Named α}, e ∈ erase name l → e ∈ l
  | [], h => h
  | (n, w) :: rest, h => by
    unfold erase at h
    split at h
    · exact List.mem_cons_of_mem _ (mem_of_mem_erase h)
    · rcases List.mem_cons.1 h with rfl | h
      · exact List.mem_cons_self
      · exact List.mem_cons_of_mem _ (mem_of_mem_erase h)

theorem sorted_put (name : String) (v : α) : ∀ {l : Named α}, Sorted l → Sorted (put name v l)
  | [], _ => List.pairwise_singleton _ _
  | (n, w) :: rest, h => by
    obtain ⟨hn, hrest⟩ := List.pairwise_cons.1 h
    unfold put
    split
    · rename_i he
      subst he
      exact List.pairwise_cons.2 ⟨hn, hrest⟩
    · rename_i hne
      split
      · rename_i hlt
        refine List.pairwise_cons.2 ⟨fun e he => ?_, h⟩
        rcases List.mem_cons.1 he with rfl | he
        · exact hlt
        · exact String.lt_trans hlt (hn e he)
      · rename_i hge
        have hlt : n < name := by
          rw [← String.not_le]
          exact fun hle => hne (String.le_antisymm (String.not_lt.1 hge) hle)
        refine List.pairwise_cons.2 ⟨fun e he => ?_, sorted_put name v hrest⟩
        rcases mem_put he with rfl | he
        · exact hlt
        · exact hn e he

theorem sorted_erase (name : String) : ∀ {l : Named α}, Sorted l → Sorted (erase name l)
  | [], _ => List.Pairwise.nil
  | (n, w) :: rest, h => by
    obtain ⟨hn, hrest⟩ := List.pairwise_cons.1 h
    unfold erase
    split
    · exact sorted_erase name hrest
    · exact List.pairwise_cons.2 ⟨fun e he => hn e (mem_of_mem_erase he), sorted_erase name hrest⟩

/-- A name greater than all others is put at the end. -/
theorem put_eq_append (name : String) (v : α) :
    ∀ {l : Named α}, (∀ e ∈ l, e.1 < name) → put name v l = l ++ [(name, v)]
  | [], _ => rfl
  | (n, w) :: rest, h => by
    have hlt : n < name := h (n, w) List.mem_cons_self
    have hne : n ≠ name := fun e => String.lt_irrefl name (e ▸ hlt)
    rw [put, if_neg hne, if_neg (String.lt_asymm hlt),
      put_eq_append name v fun e he => h e (List.mem_cons_of_mem _ he), List.cons_append]

/-! ### Several names -/

theorem sorted_putAll {l : Named α} (h : Sorted l) (entries : Named α) :
    Sorted (putAll entries l) := by
  induction entries generalizing l with
  | nil => exact h
  | cons e entries ih => exact ih (sorted_put e.1 e.2 h)

theorem mem_putAll {e : String × α} {l : Named α} {entries : Named α}
    (h : e ∈ putAll entries l) : e ∈ entries ∨ e ∈ l := by
  induction entries generalizing l with
  | nil => exact .inr h
  | cons a entries ih =>
    rcases ih h with h | h
    · exact .inl (List.mem_cons_of_mem _ h)
    · rcases mem_put h with rfl | h
      · exact .inl List.mem_cons_self
      · exact .inr h

theorem get?_putAll_of_not_mem {m : String} {l entries : Named α} (h : ∀ e ∈ entries, m ≠ e.1) :
    get? m (putAll entries l) = get? m l := by
  induction entries generalizing l with
  | nil => rfl
  | cons e entries ih =>
    show get? m (putAll entries (put e.1 e.2 l)) = _
    rw [ih fun a ha => h a (List.mem_cons_of_mem _ ha), get?_put,
      if_neg (h e List.mem_cons_self)]

theorem sorted_eraseAll {l : Named α} (h : Sorted l) (names : List String) :
    Sorted (eraseAll names l) := by
  induction names generalizing l with
  | nil => exact h
  | cons n names ih => exact ih (sorted_erase n h)

theorem mem_of_mem_eraseAll {e : String × α} {l : Named α} {names : List String}
    (h : e ∈ eraseAll names l) : e ∈ l := by
  induction names generalizing l with
  | nil => exact h
  | cons n names ih => exact mem_of_mem_erase (ih h)

theorem get?_eraseAll (m : String) {l : Named α} {names : List String} :
    get? m (eraseAll names l) = if m ∈ names then none else get? m l := by
  induction names generalizing l with
  | nil => rfl
  | cons n names ih =>
    show get? m (eraseAll names (erase n l)) = _
    rw [ih, get?_erase]
    by_cases hm : m ∈ names
    · simp [hm]
    · by_cases hn : m = n
      · simp [hn]
      · simp [hm, hn]

end Soql.Named
