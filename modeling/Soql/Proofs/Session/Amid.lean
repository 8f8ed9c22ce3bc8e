/-
# Work among others who write to the store

While somebody does some work step by step, others write to the same store between any two of the
steps, and the system under the store gets into trouble and out of it (`Work.Amid`). Every moment is
kept with the store before and after it.

Two things are known of the moments. Those of the work itself are a way through the work that meets
some store at each step (`Work.Path`), and each moment begins with the store that the one before
it left (`Follows`). As long as neither the work nor anybody else writes, the store holds what it
held.

Key definitions: `Deed`, `Moment`, `steps`, `landed`, `Work.Amid`, `Work.Path`, `Follows`.
Key theorems: `Work.Amid.path`, `Work.path_bind`, `Work.Amid.follows`, `Follows.keeps`,
`Follows.sameAs`, `Follows.cases_of_landed`.
-/
import Soql.Proofs.SignIn.Outcome

namespace Soql

/-- What is done at a moment: a step of the work, a write of somebody else, or trouble in the system
under the store, also when it is over. -/
inductive Deed where
  | own (e : Event)
  | other (w : StoreWrite) (r : Except StoreError Unit)
  | trouble (readsFail writesFail : Bool) (refuses : Nat → Option SystemError)

/-- What was done, with the store before and after it. -/
structure Moment where
  deed : Deed
  before : TokenStore
  after : TokenStore

namespace Moment

def isOwn (m : Moment) : Bool :=
  match m.deed with
  | .own _ => true
  | _ => false

/-- The write of somebody else that succeeded. -/
def landed? (m : Moment) : Option StoreWrite :=
  match m.deed with
  | .other w (.ok ()) => some w
  | _ => none

/-- A step of the work that does not write, or anything that others do. -/
def Unwritten (m : Moment) : Prop := ∀ r, m.deed ≠ .own (.wrote r)

theorem unwritten_of_not_isOwn {m : Moment} (h : m.isOwn = false) : m.Unwritten := by
  intro r hd
  rw [isOwn, hd] at h
  cases h

/-- The store after the moment comes of the one before it. -/
def Sound (m : Moment) : Prop :=
  match m.deed with
  | .own (.wrote _) => True
  | .own _ => m.after = m.before
  | .other w r => w.apply m.before = (r, m.after)
  | .trouble readsFail writesFail refuses =>
    (StoreStep.trouble readsFail writesFail refuses).apply m.before = (.ok (), m.after)

end Moment

/-- The moments of the work itself. -/
def steps (ms : List Moment) : List Moment := ms.filter Moment.isOwn

/-- Others do what they do before the first step of the work. -/
theorem steps_eq_cons {ms rest : List Moment} {m : Moment} (h : steps ms = m :: rest) :
    ∃ before ms', ms = before ++ m :: ms' ∧ (∀ x ∈ before, x.isOwn = false) ∧ steps ms' = rest := by
  obtain ⟨before, ms', rfl, hbefore, -, hrest⟩ := List.filter_eq_cons_iff.1 h
  exact ⟨before, ms', rfl, fun x hx => by simpa using hbefore x hx, hrest⟩

theorem steps_eq_nil {ms : List Moment} (h : steps ms = []) : ∀ x ∈ ms, x.isOwn = false :=
  fun x hx => by simpa using List.filter_eq_nil_iff.1 h x hx

/-- The writes of others that succeeded. -/
def landed (ms : List Moment) : List StoreWrite := ms.filterMap Moment.landed?

@[simp]
theorem landed_append (ms ms' : List Moment) : landed (ms ++ ms') = landed ms ++ landed ms' :=
  List.filterMap_append

/-- A step of the work is no write of others. -/
theorem landed_cons_own {m : Moment} {e : Event} (h : m.deed = .own e) (ms : List Moment) :
    landed (m :: ms) = landed ms :=
  List.filterMap_cons_none (by rw [Moment.landed?, h])

/-- Each moment begins with the store that the one before it left. -/
def Follows : TokenStore → List Moment → TokenStore → Prop
  | s, [], s' => s' = s
  | s, m :: ms, s' => m.before = s ∧ m.Sound ∧ Follows m.after ms s'

namespace Work

variable {α β : Type}

/-- Work goes some steps while others write to the store. -/
inductive Amid : Work α → Session → List Moment → Work α → Session → Prop where
  | refl {t s} : Amid t s [] t s
  | own {t s e t' s' ms t'' s''} (h : Step t s e t' s') (rest : Amid t' s' ms t'' s'') :
    Amid t s (⟨.own e, s.store, s'.store⟩ :: ms) t'' s''
  | other {t s ms t' s'} (w : StoreWrite)
    (rest : Amid t { s with store := (w.apply s.store).2 } ms t' s') :
    Amid t s (⟨.other w (w.apply s.store).1, s.store, (w.apply s.store).2⟩ :: ms) t' s'
  | trouble {t s ms t' s'} (readsFail writesFail refuses)
    (rest : Amid t (s.troubled readsFail writesFail refuses) ms t' s') :
    Amid t s (⟨.trouble readsFail writesFail refuses, s.store,
      (s.troubled readsFail writesFail refuses).store⟩ :: ms) t' s'

/-- A way through work to its end, with some store at each step that has nothing to do with the one
that the step before left. -/
def Path : Work α → List Moment → α → Prop
  | done a, ms, b => ms = [] ∧ b = a
  | acquire t, ms, b => ∃ s rest, ms = ⟨.own .acquired, s, s⟩ :: rest ∧ t.Path rest b
  | release t, ms, b => ∃ s rest, ms = ⟨.own .released, s, s⟩ :: rest ∧ t.Path rest b
  | look _ t, ms, b => ∃ s rest, ms = ⟨.own .looked, s, s⟩ :: rest ∧ (t s).Path rest b
  | change w t, ms, b =>
    ∃ s rest, ms = ⟨.own (.wrote (w s).1), s, (w s).2⟩ :: rest ∧ (t (w s).1).Path rest b
  | enter p t, ms, b => ∃ s rest, ms = ⟨.own (.entered p), s, s⟩ :: rest ∧ t.Path rest b
  | clock t, ms, b => ∃ now s rest, ms = ⟨.own (.time now), s, s⟩ :: rest ∧ (t now).Path rest b
  | nonce t, ms, b => ∃ text s rest, ms = ⟨.own (.nonce text), s, s⟩ :: rest ∧ (t text).Path rest b
  | launch u t, ms, b =>
    ∃ answer s rest, ms = ⟨.own (.launched u answer), s, s⟩ :: rest ∧ (t answer).Path rest b
  | send c t, ms, b =>
    ∃ reply s rest, ms = ⟨.own (.sent c reply), s, s⟩ :: rest ∧ (t reply).Path rest b

theorem Step.path {t t' : Work α} {s s' : Session} {e : Event} (h : Step t s e t' s')
    {ms : List Moment} {a : α} (hrest : t'.Path ms a) :
    t.Path (⟨.own e, s.store, s'.store⟩ :: ms) a := by
  cases h with
  | acquire h => exact ⟨_, _, rfl, hrest⟩
  | release => exact ⟨_, _, rfl, hrest⟩
  | look => exact ⟨_, _, rfl, hrest⟩
  | change => exact ⟨_, _, rfl, hrest⟩
  | enter => exact ⟨_, _, rfl, hrest⟩
  | clock now => exact ⟨now, _, _, rfl, hrest⟩
  | nonce text => exact ⟨text, _, _, rfl, hrest⟩
  | launch answer => exact ⟨answer, _, _, rfl, hrest⟩
  | send reply => exact ⟨reply, _, _, rfl, hrest⟩

theorem Amid.path {t : Work α} {s s' : Session} {ms : List Moment} {a : α}
    (h : t.Amid s ms (done a) s') : t.Path (steps ms) a := by
  generalize hd : done a = d at h
  induction h with
  | refl => exact hd ▸ ⟨rfl, rfl⟩
  | own hstep _ ih => exact hstep.path (ih hd)
  | other _ _ ih => exact ih hd
  | trouble _ _ _ _ ih => exact ih hd

/-- A way through work after work is one through each of the two. -/
theorem path_bind {k : α → Work β} {b : β} : ∀ {t : Work α} {ms : List Moment},
    (t.bind k).Path ms b → ∃ ms₁ a ms₂, ms = ms₁ ++ ms₂ ∧ t.Path ms₁ a ∧ (k a).Path ms₂ b := by
  -- one step, and then the rest
  have cons {t : Work α} {m : Moment} {rest : List Moment} {p : List Moment → α → Prop}
      (h : ∃ ms₁ a ms₂, rest = ms₁ ++ ms₂ ∧ t.Path ms₁ a ∧ (k a).Path ms₂ b)
      (hp : ∀ ms₁ a, t.Path ms₁ a → p (m :: ms₁) a) :
      ∃ ms₁ a ms₂, m :: rest = ms₁ ++ ms₂ ∧ p ms₁ a ∧ (k a).Path ms₂ b := by
    obtain ⟨ms₁, a, ms₂, rfl, ht, hk⟩ := h
    exact ⟨m :: ms₁, a, ms₂, rfl, hp ms₁ a ht, hk⟩
  intro t
  induction t with
  | done a => exact fun h => ⟨[], a, _, rfl, ⟨rfl, rfl⟩, h⟩
  | acquire t ih =>
    rintro _ ⟨s, rest, rfl, h⟩
    exact cons (ih h) fun _ _ ht => ⟨s, _, rfl, ht⟩
  | release t ih =>
    rintro _ ⟨s, rest, rfl, h⟩
    exact cons (ih h) fun _ _ ht => ⟨s, _, rfl, ht⟩
  | look _ t ih =>
    rintro _ ⟨s, rest, rfl, h⟩
    exact cons (ih s h) fun _ _ ht => ⟨s, _, rfl, ht⟩
  | change w t ih =>
    rintro _ ⟨s, rest, rfl, h⟩
    exact cons (ih _ h) fun _ _ ht => ⟨s, _, rfl, ht⟩
  | enter p t ih =>
    rintro _ ⟨s, rest, rfl, h⟩
    exact cons (ih h) fun _ _ ht => ⟨s, _, rfl, ht⟩
  | clock t ih =>
    rintro _ ⟨now, s, rest, rfl, h⟩
    exact cons (ih now h) fun _ _ ht => ⟨now, s, _, rfl, ht⟩
  | nonce t ih =>
    rintro _ ⟨text, s, rest, rfl, h⟩
    exact cons (ih text h) fun _ _ ht => ⟨text, s, _, rfl, ht⟩
  | launch u t ih =>
    rintro _ ⟨answer, s, rest, rfl, h⟩
    exact cons (ih answer h) fun _ _ ht => ⟨answer, s, _, rfl, ht⟩
  | send c t ih =>
    rintro _ ⟨reply, s, rest, rfl, h⟩
    exact cons (ih reply h) fun _ _ ht => ⟨reply, s, _, rfl, ht⟩

theorem Step.sound {t t' : Work α} {s s' : Session} {e : Event} (h : Step t s e t' s') :
    (⟨.own e, s.store, s'.store⟩ : Moment).Sound := by
  cases h with
  | change => trivial
  | _ => rfl

theorem Amid.follows {t t' : Work α} {s s' : Session} {ms : List Moment}
    (h : t.Amid s ms t' s') : Follows s.store ms s'.store := by
  induction h with
  | refl => rfl
  | own hstep _ ih => exact ⟨rfl, hstep.sound, ih⟩
  | other w _ ih => exact ⟨rfl, rfl, ih⟩
  | trouble readsFail writesFail refuses _ ih => exact ⟨rfl, rfl, ih⟩

theorem Amid.append {t t' t'' : Work α} {s s' s'' : Session} {ms ms' : List Moment}
    (h : t.Amid s ms t' s') (h' : t'.Amid s' ms' t'' s'') : t.Amid s (ms ++ ms') t'' s'' := by
  induction h with
  | refl => exact h'
  | own hstep _ ih => exact .own hstep (ih h')
  | other w _ ih => exact .other w (ih h')
  | trouble readsFail writesFail refuses _ ih => exact .trouble readsFail writesFail refuses (ih h')

theorem Amid.bind {t t' : Work α} {s s' : Session} {ms : List Moment} (h : t.Amid s ms t' s')
    (k : α → Work β) : (t.bind k).Amid s ms (t'.bind k) s' := by
  induction h with
  | refl => exact .refl
  | own hstep _ ih => exact .own (hstep.bind k) ih
  | other w _ ih => exact .other w ih
  | trouble readsFail writesFail refuses _ ih => exact .trouble readsFail writesFail refuses ih

end Work

/-! ### The store from moment to moment -/

theorem follows_append {s s' : TokenStore} {ms ms' : List Moment} :
    Follows s (ms ++ ms') s' ↔ ∃ s₁, Follows s ms s₁ ∧ Follows s₁ ms' s' := by
  induction ms generalizing s with
  | nil => simp [Follows]
  | cons m ms ih => simp only [List.cons_append, Follows, ih, exists_and_left, and_assoc]

theorem TokenStore.SameAs.trans {s s' s'' : TokenStore} (h : s.SameAs s') (h' : s'.SameAs s'') :
    s.SameAs s'' where
  token := h'.token.trans h.token
  held := h'.held.trans h.held
  document := h'.document.trans h.document
  defaultInstance := h'.defaultInstance.trans h.defaultInstance
  durable hd := h'.durable (h.durable hd)

theorem TokenStore.SameAs.knownInstance_eq {s s' : TokenStore} (h : s.SameAs s') :
    s'.knownInstance = s.knownInstance := by
  rw [knownInstance, knownInstance, h.token, h.held, h.defaultInstance]

theorem TokenStore.SameAs.coherent {s s' : TokenStore} (h : s.SameAs s') (hs : s.Coherent) :
    s'.Coherent where
  token := by rw [h.token, h.held, h.defaultInstance, hs.token]
  durable := h.durable hs.durable

/-- A moment leaves what the store holds, or it is a write of somebody else that succeeded. -/
theorem Moment.Sound.cases {m : Moment} (h : m.Sound) (hown : m.Unwritten) :
    m.landed? = none ∧ m.before.SameAs m.after ∨
      ∃ w, m.landed? = some w ∧ w.apply m.before = (.ok (), m.after) := by
  obtain ⟨deed, a, b⟩ := m
  cases deed with
  | own e =>
    cases e with
    | wrote r => exact absurd rfl (hown r)
    | _ => exact .inl ⟨rfl, (show b = a from h) ▸ .refl a⟩
  | other w r =>
    rcases w.apply_cases a with ⟨c, hw, -⟩ | ⟨e, c, hw, hheld, hdoc, hdurable⟩
    · obtain ⟨rfl, -⟩ := Prod.mk.inj (hw.symm.trans h)
      exact .inr ⟨w, rfl, h⟩
    · obtain ⟨rfl, rfl⟩ := Prod.mk.inj (hw.symm.trans h)
      exact .inl ⟨rfl, rfl, hheld, hdoc, rfl, hdurable⟩
  | trouble readsFail writesFail refuses =>
    have hb : { a with backend := a.backend.troubled readsFail writesFail refuses } = b :=
      (Prod.mk.inj h).2
    subst hb
    refine .inl ⟨rfl, rfl, a.backend.held_troubled _ _ _, ?_, rfl,
      fun hd => Backend.durable_troubled hd _ _ _⟩
    cases ha : a.backend <;> simp [TokenStore.document?, Backend.troubled, Backend.document?, ha]

/-- While the work does not write, what is true of the store stays true if it depends on no more
than what the store holds and the writes of others that succeed keep it. -/
theorem Follows.keeps {P : TokenStore → Prop} {s s' : TokenStore} {ms : List Moment}
    (h : Follows s ms s') (hown : ∀ m ∈ ms, m.Unwritten) (hsame : ∀ a b, a.SameAs b → P a → P b)
    (hothers : ∀ w ∈ landed ms, ∀ a b, w.apply a = (.ok (), b) → P a → P b) (hs : P s) : P s' := by
  induction ms generalizing s with
  | nil => exact (show s' = s from h) ▸ hs
  | cons m ms ih =>
    obtain ⟨rfl, hsound, hrest⟩ := h
    obtain ⟨hm, hms⟩ := List.forall_mem_cons.1 hown
    rcases hsound.cases hm with ⟨hnone, hbefore⟩ | ⟨w, hsome, hw⟩
    · rw [landed, List.filterMap_cons_none hnone] at hothers
      exact ih hrest hms hothers (hsame _ _ hbefore hs)
    · rw [landed, List.filterMap_cons_some hsome] at hothers
      obtain ⟨hfirst, hothers⟩ := List.forall_mem_cons.1 hothers
      exact ih hrest hms hothers (hfirst _ _ hw hs)

/-- While nobody writes with success the store holds what it held. -/
theorem Follows.sameAs {s s' : TokenStore} {ms : List Moment} (h : Follows s ms s')
    (hown : ∀ m ∈ ms, m.Unwritten) (hothers : landed ms = []) : s.SameAs s' :=
  h.keeps hown (fun _ _ hab hsa => hsa.trans hab) (by simp [hothers]) (.refl s)

/-- When one write of others succeeds and nobody else writes, the store holds what it held before
that write and what it held after it. -/
theorem Follows.cases_of_landed {s s' : TokenStore} {ms : List Moment} {w : StoreWrite}
    (h : Follows s ms s') (hown : ∀ m ∈ ms, m.Unwritten) (hothers : landed ms = [w]) :
    ∃ a b, s.SameAs a ∧ w.apply a = (.ok (), b) ∧ b.SameAs s' := by
  obtain ⟨ms₁, m, ms₂, rfl, hnone, hm, hrest⟩ := List.filterMap_eq_cons_iff.1 hothers
  obtain ⟨a, hbefore, rfl, hsound, hafter⟩ := follows_append.1 h
  obtain ⟨hown₁, hown₂⟩ := List.forall_mem_append.1 hown
  obtain ⟨hownm, hown₂⟩ := List.forall_mem_cons.1 hown₂
  rcases hsound.cases hownm with ⟨hnone', -⟩ | ⟨w', hsome, hw⟩
  · cases hnone'.symm.trans hm
  · obtain rfl := Option.some.inj (hsome.symm.trans hm)
    exact ⟨m.before, m.after, hbefore.sameAs hown₁ (List.filterMap_eq_nil_iff.2 hnone), hw,
      hafter.sameAs hown₂ hrest⟩

end Soql
