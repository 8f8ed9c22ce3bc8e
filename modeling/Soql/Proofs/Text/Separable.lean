/-
# Texts that tell where they end

A text is written part after part. It can be cut into its parts again when every part
tells where it ends: when of two texts that begin with such parts, and go on in a way
that may follow them, equal texts have equal parts and equal rests.

A run of characters of one class tells its end where no further character of the class
comes next, a list tells its end where no further separator comes next.

Key definitions: `StopsAt`, `Separable`.
Key theorems: `append_inj_of_run`, `Separable.joined`, `Separable.optional`.
-/

namespace Soql.Text

/-- The text does not go on with a character of class `p`. -/
def StopsAt (p : Char → Bool) (s : List Char) : Prop := ∀ c ∈ s.head?, p c = false

theorem stopsAt_nil (p : Char → Bool) : StopsAt p [] := by simp [StopsAt]

theorem stopsAt_cons {p : Char → Bool} {c : Char} {s : List Char} :
    StopsAt p (c :: s) ↔ p c = false := by
  simp [StopsAt]

theorem stopsAt_dropWhile (p : Char → Bool) (s : List Char) : StopsAt p (s.dropWhile p) := by
  intro c hc
  have := List.head?_dropWhile_not p s
  rw [Option.mem_def.1 hc] at this
  simpa using this

theorem takeWhile_of_stops {p : Char → Bool} {s : List Char} (h : StopsAt p s) :
    s.takeWhile p = [] := by
  cases s with
  | nil => rfl
  | cons c s => rw [List.takeWhile_cons_of_neg (by rw [stopsAt_cons.1 h]; decide)]

theorem dropWhile_of_stops {p : Char → Bool} {s : List Char} (h : StopsAt p s) :
    s.dropWhile p = s := by
  cases s with
  | nil => rfl
  | cons c s => rw [List.dropWhile_cons_of_neg (by rw [stopsAt_cons.1 h]; decide)]

/-- Two runs of a class that stop are equal when the texts are. -/
theorem append_inj_of_run {p : Char → Bool} : ∀ {a b r s : List Char}, (∀ c ∈ a, p c = true) →
    (∀ c ∈ b, p c = true) → StopsAt p r → StopsAt p s → a ++ r = b ++ s → a = b ∧ r = s
  | [], [], _, _, _, _, _, _, h => ⟨rfl, h⟩
  | [], d :: b, _, s, _, hb, hr, _, h => by
    rw [List.nil_append, List.cons_append] at h
    rw [h, stopsAt_cons, hb d List.mem_cons_self] at hr
    exact absurd hr (by decide)
  | c :: a, [], r, _, ha, _, _, hs, h => by
    rw [List.nil_append, List.cons_append] at h
    rw [← h, stopsAt_cons, ha c List.mem_cons_self] at hs
    exact absurd hs (by decide)
  | c :: a, d :: b, r, s, ha, hb, hr, hs, h => by
    simp only [List.cons_append, List.cons.injEq] at h
    obtain ⟨rfl, h⟩ := h
    obtain ⟨rfl, hrs⟩ := append_inj_of_run (fun c hc => ha c (List.mem_cons_of_mem _ hc))
      (fun c hc => hb c (List.mem_cons_of_mem _ hc)) hr hs h
    exact ⟨rfl, hrs⟩

/-! ### Parts that can be told from what follows -/

variable {α : Type} {write : α → List Char} {good : α → Prop} {next next' : List Char → Prop}

/-- Parts of the class `good` can be told from any text of the class `next` after them. -/
def Separable (write : α → List Char) (good : α → Prop) (next : List Char → Prop) : Prop :=
  ∀ x y r s, good x → good y → next r → next s → write x ++ r = write y ++ s → x = y ∧ r = s

/-- A list with separators between its parts, when no separator follows the list. -/
theorem Separable.joined {sep : List Char} (h : Separable write good next)
    (hsep : ∀ t, next (sep ++ t)) (hnext : ∀ r, next' r → next r ∧ ¬ sep <+: r) :
    Separable (fun xs => sep.intercalate (xs.map write)) (fun xs => xs ≠ [] ∧ ∀ x ∈ xs, good x)
      next' := by
  intro xs
  induction xs with
  | nil => exact fun _ _ _ hx => absurd rfl hx.1
  | cons x xs ih =>
    intro ys r s hxs hys hr hs heq
    obtain ⟨y, ys, rfl⟩ : ∃ y ys', ys = y :: ys' := List.exists_cons_of_ne_nil hys.1
    have hx : good x := hxs.2 x List.mem_cons_self
    have hy : good y := hys.2 y List.mem_cons_self
    cases xs with
    | nil =>
      cases ys with
      | nil =>
        obtain ⟨rfl, hrs⟩ := h x y r s hx hy (hnext r hr).1 (hnext s hs).1 (by simpa using heq)
        exact ⟨rfl, hrs⟩
      | cons y' ys =>
        -- the left list ends where the right one goes on with a separator
        obtain ⟨-, hrs⟩ := h x y r _ hx hy (hnext r hr).1 (hsep _)
          (by simpa [List.append_assoc] using heq)
        exact absurd ⟨_, hrs.symm⟩ (hnext r hr).2
    | cons x' xs =>
      cases ys with
      | nil =>
        obtain ⟨-, hrs⟩ := h x y _ s hx hy (hsep _) (hnext s hs).1
          (by simpa [List.append_assoc] using heq)
        exact absurd ⟨_, hrs⟩ (hnext s hs).2
      | cons y' ys =>
        obtain ⟨rfl, hrest⟩ := h x y _ _ hx hy (hsep _) (hsep _)
          (by simpa [List.append_assoc] using heq)
        obtain ⟨htail, hrs⟩ := ih (y' :: ys) r s
          ⟨List.cons_ne_nil _ _, fun z hz => hxs.2 z (List.mem_cons_of_mem _ hz)⟩
          ⟨List.cons_ne_nil _ _, fun z hz => hys.2 z (List.mem_cons_of_mem _ hz)⟩ hr hs
          (by simpa [List.append_assoc] using List.append_cancel_left hrest)
        exact ⟨by rw [htail], hrs⟩

/-- A part that may be missing, after a mark that cannot begin what follows. -/
theorem Separable.optional {mark : List Char} (h : Separable write good next)
    (hmark : ∀ r, next r → ¬ mark <+: r) :
    Separable (fun o : Option α => o.elim [] fun x => mark ++ write x) (fun o => ∀ x ∈ o, good x)
      next := by
  intro x y r s hx hy hr hs heq
  cases x with
  | none =>
    cases y with
    | none => exact ⟨rfl, heq⟩
    | some y => exact absurd ⟨_, (List.append_assoc .. ▸ heq).symm⟩ (hmark r hr)
  | some x =>
    cases y with
    | none => exact absurd ⟨_, List.append_assoc .. ▸ heq⟩ (hmark s hs)
    | some y =>
      simp only [Option.elim_some, List.append_assoc] at heq
      obtain ⟨rfl, hrs⟩ := h x y r s (hx x rfl) (hy y rfl) hr hs (List.append_cancel_left heq)
      exact ⟨rfl, hrs⟩

end Soql.Text
