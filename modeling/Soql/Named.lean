/-
# Values under names

A list of values under names, kept in the order of the names by `put`. What a list
says is what `get?` answers for every name.

Key definitions: `Named`, `Named.get?`, `Named.put`, `Named.erase`.
Key theorems: `Named.get?_put`, `Named.get?_erase`.
-/

namespace Soql

abbrev Named (α : Type) := List (String × α)

namespace Named

variable {α : Type}

/-- The first value under a name. -/
def get? (name : String) : Named α → Option α
  | [] => none
  | (n, v) :: rest => if n = name then some v else get? name rest

/-- Puts a value under a name, in the place of the value there or before the first greater name. -/
def put (name : String) (v : α) : Named α → Named α
  | [] => [(name, v)]
  | (n, w) :: rest =>
    if n = name then (name, v) :: rest
    else if name < n then (name, v) :: (n, w) :: rest
    else (n, w) :: put name v rest

def erase (name : String) : Named α → Named α
  | [] => []
  | (n, v) :: rest => if n = name then erase name rest else (n, v) :: erase name rest

/-- Puts the values one after another. -/
def putAll (entries : Named α) (l : Named α) : Named α :=
  entries.foldl (fun l e => put e.1 e.2 l) l

def eraseAll (names : List String) (l : Named α) : Named α :=
  names.foldl (fun l n => erase n l) l

theorem get?_put (name m : String) (v : α) :
    ∀ l : Named α, get? m (put name v l) = if m = name then some v else get? m l
  | [] => by simp only [put, get?, eq_comm]
  | (n, w) :: rest => by
    have ih := get?_put name m v rest
    unfold put
    split
    · subst n
      simp only [get?, eq_comm]
      split <;> rfl
    · rename_i hn
      split
      · simp only [get?, eq_comm]
      · simp only [get?, ih]
        by_cases h : n = m
        · subst h
          simp [hn]
        · simp [h]

theorem get?_erase (name m : String) :
    ∀ l : Named α, get? m (erase name l) = if m = name then none else get? m l
  | [] => by simp [erase, get?]
  | (n, w) :: rest => by
    have ih := get?_erase name m rest
    unfold erase
    split
    · subst n
      rw [ih]
      by_cases h : m = name
      · simp [h]
      · simp [h, get?, Ne.symm h]
    · rename_i hn
      simp only [get?, ih]
      by_cases h : n = m
      · subst h
        simp [hn]
      · simp [h]

end Named

end Soql
