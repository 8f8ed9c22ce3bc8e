/-
# Expressions of conditions, AND and OR

An expression is looked at as a list of signs: conditions, words and parentheses. It is read with
no rule about which of AND and OR binds closer, so it may have several readings.

Units that are balanced and have no word outside of parentheses are kept apart by a word between
them: a reading can split such a list only between two units. When all the words are the same and
every unit has one value, so has the list.

Key definitions: `Sign`, `depth`, `Reads`, `Balanced`, `Solid`, `joined`.
Key theorems: `Reads.balanced`, `reads_parens_iff`, `word_of_joined`, `Reads.exists_split`,
`Reads.eq_total`.
-/
import Soql.Query.Clause

namespace Soql

namespace Conjunction

/-- The value of two expressions with the conjunction between them. -/
def value : Conjunction → Bool → Bool → Bool
  | .and, a, b => a && b
  | .or, a, b => a || b

/-- The value of any number of expressions with the conjunction between them. -/
def total : Conjunction → List Bool → Bool
  | .and, bs => bs.all id
  | .or, bs => bs.any id

theorem total_append (k : Conjunction) (as bs : List Bool) :
    k.total (as ++ bs) = k.value (k.total as) (k.total bs) := by
  cases k <;> simp [total, value]

theorem total_singleton (k : Conjunction) (b : Bool) : k.total [b] = b := by
  cases k <;> simp [total]

end Conjunction

namespace Clause

/-- The signs that a clause is written in. -/
inductive Sign where
  | condition (c : Condition)
  | word (k : Conjunction)
  | opening
  | closing
deriving DecidableEq, Repr

namespace Sign

def text : Sign → String
  | condition c => c.render
  | word k => " " ++ k.word ++ " "
  | opening => "("
  | closing => ")"

def weight : Sign → Int
  | opening => 1
  | closing => -1
  | _ => 0

def condition? : Sign → Option Condition
  | condition c => some c
  | _ => none

end Sign

/-- How many parentheses are open after the signs. -/
def depth : List Sign → Int
  | [] => 0
  | x :: s => x.weight + depth s

@[simp]
theorem depth_nil : depth [] = 0 := rfl

@[simp]
theorem depth_cons (x : Sign) (s : List Sign) : depth (x :: s) = x.weight + depth s := rfl

@[simp]
theorem depth_append : ∀ s t : List Sign, depth (s ++ t) = depth s + depth t
  | [], t => (Int.zero_add _).symm
  | x :: s, t => by rw [List.cons_append, depth_cons, depth_append s t, depth_cons, Int.add_assoc]

open Sign

/-- The signs can be read as an expression with the value `b` when the conditions have the values
`v`. Nothing is said about which of AND and OR binds closer, or from which side. -/
inductive Reads (v : Condition → Bool) : List Sign → Bool → Prop
  | condition (c : Condition) : Reads v [.condition c] (v c)
  | parens {s : List Sign} {b : Bool} (inside : Reads v s b) :
      Reads v (.opening :: (s ++ [.closing])) b
  | word {s t : List Sign} {a b : Bool} {k : Conjunction} (left : Reads v s a)
      (right : Reads v t b) : Reads v (s ++ .word k :: t) (k.value a b)

/-- Every parenthesis that is opened is closed, and none is closed before. -/
structure Balanced (s : List Sign) : Prop where
  depth_eq : depth s = 0
  depth_nonneg : ∀ p q, s = p ++ q → 0 ≤ depth p

/-- Balanced signs in which every word stands in parentheses. -/
structure Solid (s : List Sign) : Prop extends Balanced s where
  nonempty : s ≠ []
  word : ∀ p k q, s = p ++ Sign.word k :: q → depth p ≠ 0

theorem balanced_singleton {x : Sign} (h : x.weight = 0) : Balanced [x] := by
  refine ⟨by simp [h], fun p q hs => ?_⟩
  rcases List.singleton_eq_append_iff.1 hs with ⟨rfl, -⟩ | ⟨rfl, -⟩
  · simp
  · simp [h]

theorem Balanced.append {s t : List Sign} (hs : Balanced s) (ht : Balanced t) :
    Balanced (s ++ t) := by
  refine ⟨by rw [depth_append, hs.depth_eq, ht.depth_eq]; rfl, fun p q h => ?_⟩
  rcases List.append_eq_append_iff.1 h with ⟨p', rfl, hp⟩ | ⟨q', hq, -⟩
  · rw [depth_append, hs.depth_eq, Int.zero_add]
    exact ht.depth_nonneg p' q hp
  · exact hs.depth_nonneg p q' hq

/-- Of signs in parentheses, only the whole is balanced. -/
theorem one_le_depth_of_parens {s p q : List Sign} (hs : Balanced s)
    (h : opening :: (s ++ [closing]) = p ++ q) (hp : p ≠ []) (hq : q ≠ []) : 1 ≤ depth p := by
  obtain ⟨x, p, rfl⟩ := List.exists_cons_of_ne_nil hp
  rw [List.cons_append] at h
  obtain ⟨rfl, htail⟩ := List.cons.inj h
  have : 0 ≤ depth p := by
    rcases List.append_eq_append_iff.1 htail with ⟨p', rfl, hp'⟩ | ⟨q', hq', -⟩
    · rcases List.singleton_eq_append_iff.1 hp' with ⟨rfl, -⟩ | ⟨-, rfl⟩
      · simp [hs.depth_eq]
      · exact absurd rfl hq
    · exact hs.depth_nonneg p q' hq'
  rw [depth_cons]
  show 1 ≤ 1 + depth p
  omega

theorem Balanced.parens {s : List Sign} (hs : Balanced s) :
    Balanced (opening :: (s ++ [closing])) := by
  refine ⟨by simp [hs.depth_eq, Sign.weight], fun p q h => ?_⟩
  by_cases hp : p = []
  · simp [hp]
  · by_cases hq : q = []
    · rw [hq, List.append_nil] at h
      rw [← h]
      simp [hs.depth_eq, Sign.weight]
    · have := one_le_depth_of_parens hs h hp hq
      omega

theorem condition_ne_word (c : Condition) (p q : List Sign) (k : Conjunction) :
    [Sign.condition c] ≠ p ++ Sign.word k :: q := by
  intro h
  rcases List.singleton_eq_append_iff.1 h with ⟨-, h⟩ | ⟨-, h⟩ <;> simp at h

theorem solid_condition (c : Condition) : Solid [.condition c] :=
  ⟨balanced_singleton rfl, List.cons_ne_nil _ _,
    fun p k q h => absurd h (condition_ne_word c p q k)⟩

theorem Balanced.solid_parens {s : List Sign} (hs : Balanced s) :
    Solid (opening :: (s ++ [closing])) := by
  refine ⟨hs.parens, List.cons_ne_nil _ _, fun p k q h hzero => ?_⟩
  cases p with
  | nil => simp at h
  | cons x p =>
    have := one_le_depth_of_parens hs h (List.cons_ne_nil _ _) (List.cons_ne_nil _ _)
    omega

/-- A word of signs in parentheses is one of the signs inside. -/
theorem word_of_parens {s p q : List Sign} {k : Conjunction}
    (h : opening :: (s ++ [closing]) = p ++ Sign.word k :: q) :
    ∃ p' q', s = p' ++ Sign.word k :: q' ∧ depth p = 1 + depth p' := by
  cases p with
  | nil => simp at h
  | cons x p =>
    rw [List.cons_append] at h
    obtain ⟨rfl, htail⟩ := List.cons.inj h
    rcases List.append_eq_append_iff.1 htail with ⟨a, rfl, ha⟩ | ⟨a, rfl, ha⟩
    · rcases List.singleton_eq_append_iff.1 ha with ⟨-, h⟩ | ⟨-, h⟩ <;> simp at h
    · cases a with
      | nil => simp at ha
      | cons y q' =>
        rw [List.cons_append] at ha
        obtain ⟨rfl, -⟩ := List.cons.inj ha
        exact ⟨p, q', rfl, depth_cons _ _⟩

variable {v : Condition → Bool} {s : List Sign} {b : Bool} {k : Conjunction}

theorem Reads.balanced (h : Reads v s b) : Balanced s := by
  induction h with
  | condition c => exact (solid_condition c).toBalanced
  | parens _ ih => exact ih.parens
  | word _ _ ih₁ ih₂ => exact ih₁.append ((balanced_singleton rfl).append ih₂)

theorem Reads.ne_nil (h : Reads v s b) : s ≠ [] := by
  cases h <;> simp

/-- An expression in parentheses is read as what stands in them. -/
theorem reads_parens_iff (hs : Balanced s) :
    Reads v (opening :: (s ++ [closing])) b ↔ Reads v s b := by
  refine ⟨fun h => ?_, .parens⟩
  generalize ht : opening :: (s ++ [closing]) = t at h
  cases h with
  | condition c => simp at ht
  | parens inside =>
    obtain rfl := (List.append_left_inj _).1 (List.cons.inj ht).2
    exact inside
  | word left _ =>
    -- what stands before the word would have to be balanced
    have hpos := one_le_depth_of_parens hs ht left.ne_nil (List.cons_ne_nil _ _)
    rw [left.balanced.depth_eq] at hpos
    exact absurd hpos (by decide)

/-! ### Units with one word between them -/

/-- Units with the word between neighbours. -/
def joined (k : Conjunction) (units : List (List Sign)) : List Sign :=
  [Sign.word k].intercalate units

theorem joined_singleton (u : List Sign) : joined k [u] = u := List.intercalate_singleton

theorem joined_cons {u : List Sign} {units : List (List Sign)} (h : units ≠ []) :
    joined k (u :: units) = u ++ .word k :: joined k units := by
  rw [joined, List.intercalate_cons_of_ne_nil h, List.append_assoc]
  rfl

theorem Balanced.joined {units : List (List Sign)} (h : ∀ u ∈ units, Balanced u) :
    Balanced (joined k units) := by
  induction units with
  | nil => exact ⟨rfl, fun p q hs => by simp [(List.append_eq_nil_iff.1 hs.symm).1]⟩
  | cons u units ih =>
    obtain ⟨hu, hunits⟩ := List.forall_mem_cons.1 h
    by_cases hnil : units = []
    · rw [hnil, joined_singleton]
      exact hu
    · rw [joined_cons hnil]
      exact hu.append ((balanced_singleton rfl).append (ih hunits))

/-- A word among the units stands between two of them or inside of one. -/
theorem word_of_joined {p q : List Sign} {k' : Conjunction} : ∀ {units : List (List Sign)},
    (∀ u ∈ units, Balanced u) → joined k units = p ++ Sign.word k' :: q →
      (k' = k ∧ depth p = 0 ∧ ∃ us vs, units = us ++ vs ∧ us ≠ [] ∧ vs ≠ [] ∧ p = joined k us ∧
        q = joined k vs) ∨
      ∃ u ∈ units, ∃ p' q', u = p' ++ Sign.word k' :: q' ∧ depth p = depth p'
  | [], _, h => absurd h.symm (by simp [joined])
  | [u], _, h => by
    rw [joined_singleton] at h
    exact .inr ⟨u, List.mem_singleton_self u, p, q, h, rfl⟩
  | u :: u' :: units, hunits, h => by
    obtain ⟨hu, hrest⟩ := List.forall_mem_cons.1 hunits
    have hne : u' :: units ≠ [] := List.cons_ne_nil _ _
    rw [joined_cons hne] at h
    rcases List.append_eq_append_iff.1 h with ⟨p', rfl, hp⟩ | ⟨q', rfl, hq⟩
    · cases p' with
      | nil =>
        obtain ⟨hk, rfl⟩ := List.cons.inj hp
        refine .inl ⟨(Sign.word.inj hk).symm, by simp [hu.depth_eq], [u], u' :: units, rfl,
          List.cons_ne_nil _ _, hne, by simp [joined_singleton], rfl⟩
      | cons x p' =>
        rw [List.cons_append] at hp
        obtain ⟨rfl, htail⟩ := List.cons.inj hp
        have hdepth : depth (u ++ Sign.word k :: p') = depth p' := by
          simp [hu.depth_eq, Sign.weight]
        rcases word_of_joined hrest htail with ⟨rfl, hzero, us, vs, hsplit, hus, hvs, rfl, rfl⟩ |
          ⟨w, hw, p'', q'', hword, hsame⟩
        · exact .inl ⟨rfl, hdepth.trans hzero, u :: us, vs, by rw [hsplit]; rfl,
            List.cons_ne_nil _ _, hvs, (joined_cons hus).symm, rfl⟩
        · exact .inr ⟨w, List.mem_cons_of_mem _ hw, p'', q'', hword, hdepth.trans hsame⟩
    · cases q' with
      | nil =>
        obtain ⟨hk, rfl⟩ := List.cons.inj hq
        rw [List.append_nil] at hu
        refine .inl ⟨Sign.word.inj hk, hu.depth_eq, [p], u' :: units, by simp,
          List.cons_ne_nil _ _, hne, by simp [joined_singleton], rfl⟩
      | cons x q' =>
        rw [List.cons_append] at hq
        obtain ⟨rfl, -⟩ := List.cons.inj hq
        exact .inr ⟨_, List.mem_cons_self, p, q', rfl, rfl⟩

section Items

variable {α : Type} {signs : α → List Sign} {value : α → Bool}

theorem Reads.joined : ∀ {items : List α}, items ≠ [] →
    (∀ x ∈ items, Reads v (signs x) (value x)) →
    Reads v (joined k (items.map signs)) (k.total (items.map value))
  | [], h, _ => absurd rfl h
  | [x], _, h => by
    rw [List.map_singleton, List.map_singleton, joined_singleton, k.total_singleton]
    exact h x List.mem_cons_self
  | x :: y :: items, _, h => by
    obtain ⟨hx, hitems⟩ := List.forall_mem_cons.1 h
    have htotal := k.total_append [value x] ((y :: items).map value)
    rw [k.total_singleton] at htotal
    rw [List.map_cons, joined_cons (by simp)]
    show Reads v _ (k.total ([value x] ++ (y :: items).map value))
    rw [htotal]
    exact .word hx (Reads.joined (List.cons_ne_nil y items) hitems)

/-- Several solid units are read at a word between two of them. -/
theorem Reads.exists_split {u u' : List Sign} {units : List (List Sign)}
    (hsolid : ∀ w ∈ u :: u' :: units, Solid w)
    (h : Reads v (Clause.joined k (u :: u' :: units)) b) :
    ∃ us vs a c, u :: u' :: units = us ++ vs ∧ us ≠ [] ∧ vs ≠ [] ∧ Reads v (Clause.joined k us) a ∧
      Reads v (Clause.joined k vs) c ∧ b = k.value a c := by
  have hu := hsolid u List.mem_cons_self
  have hcons : Clause.joined k (u :: u' :: units) = u ++ .word k :: Clause.joined k (u' :: units) :=
    joined_cons (List.cons_ne_nil _ _)
  generalize hs : Clause.joined k (u :: u' :: units) = s at h
  cases h with
  | condition c =>
    rw [hcons, List.append_eq_singleton_iff] at hs
    rcases hs with ⟨hnil, -⟩ | ⟨-, hnil⟩
    · exact absurd hnil hu.nonempty
    · exact absurd hnil (List.cons_ne_nil _ _)
  | parens inside =>
    -- the first unit would end inside of the parentheses
    rw [hcons] at hs
    have hpos := one_le_depth_of_parens inside.balanced hs.symm hu.nonempty (List.cons_ne_nil _ _)
    rw [hu.depth_eq] at hpos
    exact absurd hpos (by decide)
  | word left right =>
    rcases word_of_joined (fun w hw => (hsolid w hw).toBalanced) hs with
      ⟨rfl, -, us, vs, hsplit, hus, hvs, rfl, rfl⟩ | ⟨w, hw, p, q, hword, hdepth⟩
    · exact ⟨us, vs, _, _, hsplit, hus, hvs, left, right, rfl⟩
    · rw [left.balanced.depth_eq] at hdepth
      exact absurd hdepth.symm ((hsolid w hw).word p _ q hword)

/-- However the words between solid units are bound, the value is the same. -/
theorem Reads.eq_total : ∀ {items : List α} {b : Bool}, (∀ x ∈ items, Solid (signs x)) →
    (∀ x ∈ items, ∀ b, Reads v (signs x) b → b = value x) →
    Reads v (Clause.joined k (items.map signs)) b → b = k.total (items.map value)
  | [], _, _, _, h => absurd rfl h.ne_nil
  | [x], b, _, hvalue, h => by
    rw [List.map_singleton, joined_singleton] at h
    rw [List.map_singleton, k.total_singleton]
    exact hvalue x List.mem_cons_self b h
  | x :: y :: items, b, hsolid, hvalue, h => by
    obtain ⟨us, vs, a, c, hsplit, hus, hvs, left, right, rfl⟩ :=
      Reads.exists_split (List.forall_mem_map.2 hsolid) h
    have hmap : (x :: y :: items).map signs = us ++ vs := hsplit
    obtain ⟨ws, zs, hitems, rfl, rfl⟩ := List.map_eq_append_iff.1 hmap
    have hleft : 0 < ws.length := List.length_pos_iff.2 fun h => hus (by rw [h]; rfl)
    have hright : 0 < zs.length := List.length_pos_iff.2 fun h => hvs (by rw [h]; rfl)
    have hlength : items.length + 2 = ws.length + zs.length := by
      simpa using congrArg List.length hitems
    rw [hitems, List.forall_mem_append] at hsolid hvalue
    rw [hitems, List.map_append, k.total_append, ← Reads.eq_total hsolid.1 hvalue.1 left,
      ← Reads.eq_total hsolid.2 hvalue.2 right]
termination_by items => items.length
decreasing_by all_goals simp only [List.length_cons]; omega

end Items

end Clause

end Soql
