/-
# First values

In a list in which names may come again, only the first value under a name is seen. So pairs under
names that were there before, pairs under names that nobody asks for, and the order of pairs under
different names do not matter.

Key definitions: `Named.First`, `Named.Absent`, `Named.Alike`.
Key theorems: `Named.get?_eq_some_iff`, `Named.get?_eq_none_iff`, `Named.Alike.get?_eq`.
-/
import Soql.Proofs.Named

namespace Soql.Named

variable {α : Type} {name : String} {v : α} {l l' a b : Named α}

def Absent (l : Named α) (name : String) : Prop := ∀ e ∈ l, e.1 ≠ name

instance (l : Named α) (name : String) : Decidable (Absent l name) :=
  inferInstanceAs (Decidable (∀ e ∈ l, e.1 ≠ name))

/-- The value is the first one under the name. -/
def First (l : Named α) (name : String) (v : α) : Prop :=
  ∃ a b, l = a ++ (name, v) :: b ∧ Absent a name

theorem get?_append (name : String) (b : Named α) :
    ∀ a : Named α, get? name (a ++ b) = (get? name a).or (get? name b)
  | [] => rfl
  | (n, w) :: a => by
    simp only [List.cons_append, get?]
    split
    · rfl
    · exact get?_append name b a

theorem get?_eq_none_iff : ∀ {l : Named α}, get? name l = none ↔ Absent l name
  | [] => by simp [get?, Absent]
  | (n, w) :: l => by
    rw [get?, Absent, List.forall_mem_cons, ← Absent, ← get?_eq_none_iff (l := l)]
    split
    · rename_i h
      simp [h]
    · rename_i h
      simp [h]

theorem get?_eq_some_iff : get? name l = some v ↔ First l name v := by
  constructor
  · intro h
    induction l with
    | nil => cases h
    | cons e l ih =>
      obtain ⟨n, w⟩ := e
      rw [get?] at h
      split at h
      · rename_i hn
        obtain rfl := Option.some.inj h
        exact ⟨[], l, by rw [hn]; rfl, by simp [Absent]⟩
      · rename_i hn
        obtain ⟨a, b, rfl, ha⟩ := ih h
        exact ⟨(n, w) :: a, b, rfl, List.forall_mem_cons.2 ⟨hn, ha⟩⟩
  · rintro ⟨a, b, rfl, ha⟩
    rw [get?_append, get?_eq_none_iff.2 ha, Option.none_or, get?, if_pos rfl]

theorem first_cons_iff {e : String × α} :
    First (e :: l) name v ↔ e = (name, v) ∨ e.1 ≠ name ∧ First l name v := by
  obtain ⟨n, w⟩ := e
  rw [← get?_eq_some_iff, ← get?_eq_some_iff, get?, Prod.mk.injEq]
  split
  · rename_i hn
    simp [hn]
  · rename_i hn
    simp [hn]

theorem First.unique {w : α} (h : First l name v) (h' : First l name w) : v = w :=
  Option.some.inj ((get?_eq_some_iff.2 h).symm.trans (get?_eq_some_iff.2 h'))

theorem First.not_absent (h : First l name v) : ¬Absent l name := fun habsent => by
  cases (get?_eq_some_iff.2 h).symm.trans (get?_eq_none_iff.2 habsent)

theorem absent_or_first (l : Named α) (name : String) : Absent l name ∨ ∃ v, First l name v := by
  cases h : get? name l with
  | none => exact .inl (get?_eq_none_iff.1 h)
  | some v => exact .inr ⟨v, get?_eq_some_iff.1 h⟩

/-- The first value under a name is the first one of those under it. -/
theorem get?_eq_head? (name : String) : ∀ l : Named α,
    get? name l = (l.filter (·.1 == name)).head?.map Prod.snd
  | [] => rfl
  | (n, w) :: l => by
    rw [get?]
    split
    · rename_i hn
      rw [List.filter_cons_of_pos (by simpa using hn)]
      rfl
    · rename_i hn
      rw [List.filter_cons_of_neg (by simpa using hn), get?_eq_head? name l]

/-- Lists that say the same of the given names: pairs come and go under names that were there
before, or under others than those, and the pairs are put in an order in which those of one name
stand as before. -/
inductive Alike (names : List String) : Named α → Named α → Prop
  | repeated {a b : Named α} {e : String × α} (before : ∃ d ∈ a, d.1 = e.1) :
      Alike names (a ++ b) (a ++ e :: b)
  | other {a b : Named α} {e : String × α} (aside : e.1 ∉ names) :
      Alike names (a ++ b) (a ++ e :: b)
  | moved {l l' : Named α} (order : ∀ n, l.filter (·.1 == n) = l'.filter (·.1 == n)) :
      Alike names l l'
  | symm {l l' : Named α} (h : Alike names l l') : Alike names l' l
  | trans {l l' l'' : Named α} (h : Alike names l l') (h' : Alike names l' l'') :
      Alike names l l''

/-- Neighbours under different names change places. -/
theorem Alike.swap {names : List String} {d e : String × α} (h : d.1 ≠ e.1) :
    Alike names (a ++ d :: e :: b) (a ++ e :: d :: b) := by
  refine .moved fun n => ?_
  rw [List.filter_append, List.filter_append]
  refine congrArg (a.filter _ ++ ·) ?_
  by_cases hd : d.1 = n
  · rw [List.filter_cons_of_pos (by simpa using hd),
      List.filter_cons_of_neg (by simpa [← hd] using h.symm),
      List.filter_cons_of_neg (by simpa [← hd] using h.symm),
      List.filter_cons_of_pos (by simpa using hd)]
  · simp only [List.filter_cons, beq_iff_eq, if_neg hd]

theorem Alike.get?_eq {names : List String} (h : Alike names l l') :
    ∀ n ∈ names, get? n l = get? n l' := by
  induction h with
  | @repeated a b e before =>
    intro n _
    by_cases hn : e.1 = n
    · -- the pair before it is seen
      obtain ⟨d, hd, hname⟩ := before
      have hsome : get? n a ≠ none := fun hnone => get?_eq_none_iff.1 hnone d hd (hname.trans hn)
      obtain ⟨v, hv⟩ := Option.ne_none_iff_exists'.1 hsome
      rw [get?_append, get?_append, hv, Option.some_or, Option.some_or]
    · rw [get?_append_cons hn]
  | other aside => exact fun n hn => (get?_append_cons (fun h => aside (h ▸ hn)) _ _).symm
  | moved order => exact fun n _ => by rw [get?_eq_head?, get?_eq_head?, order]
  | symm _ ih => exact fun n hn => (ih n hn).symm
  | trans _ _ ih ih' => exact fun n hn => (ih n hn).trans (ih' n hn)

end Soql.Named
