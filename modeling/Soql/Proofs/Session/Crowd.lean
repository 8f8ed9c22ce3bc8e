/-
# Several at work in one session

Several work on one session, and their steps come in any order (`Crowd.Step`). Each does its work
alone, with the others kept waiting (`SignIn.alone`). Then at any time the work that is done was
done by one after another, in the order in which they came to acquire (`Served`), one more may be
in the middle of its work, and the rest wait and have done nothing yet (`Crowd.Orderly`). Somebody
can always go on until all are done.

Key definitions: `Crowd`, `Crowd.Step`, `Crowd.start`, `Turn`, `Served`, `Crowd.Orderly`.
Key theorems: `Crowd.orderly_step`, `Crowd.orderly_of_reaches`, `Crowd.Orderly.last_of_begun`,
`Crowd.Orderly.exists_step`, `Crowd.Orderly.served_of_done`, `Crowd.reaches_turn`.
-/
import Mathlib.Logic.Function.Basic
import Mathlib.Logic.Relation
import Soql.Proofs.Session.Steps
import Soql.SignIn.Flow

namespace Soql

/-- Those who work on a session. -/
structure Crowd (ι α : Type) where
  session : Session
  work : ι → Work α
  /-- What happened to each of them. -/
  past : ι → List Event
  /-- Those who came to acquire, one after another. -/
  order : List ι

variable {ι α : Type}

namespace Crowd

def start (s : Session) (work : ι → Work α) : Crowd ι α := ⟨s, work, fun _ => [], []⟩

variable [DecidableEq ι]

/-- One of the crowd has taken a step. -/
def advance (c : Crowd ι α) (i : ι) (e : Event) (t : Work α) (s : Session) : Crowd ι α where
  session := s
  work := Function.update c.work i t
  past := Function.update c.past i (c.past i ++ [e])
  order :=
    match e with
    | .acquired => c.order ++ [i]
    | _ => c.order

/-- Somebody takes a step, or the system under the store gets into trouble or out of it. -/
inductive Step : Crowd ι α → Crowd ι α → Prop where
  | work {c} (i) {e t s} (h : Work.Step (c.work i) c.session e t s) : Step c (c.advance i e t s)
  | trouble {c} (readsFail writesFail refuses) :
    Step c { c with session := c.session.troubled readsFail writesFail refuses }

end Crowd

/-! ### One after another -/

/-- A turn of one of a crowd: what happened in it and what it came to. -/
structure Turn (ι α : Type) where
  who : ι
  events : List Event
  result : α

theorem launches_turn (es : List Event) :
    launches (.acquired :: (es ++ [.released])) = launches es := launches_quiet rfl es

/-- Some of a crowd have had their turn, each with nobody else at work. -/
inductive Served (t : ι → Work α) (s₀ : Session) : List (Turn ι α) → Session → Prop where
  | refl : Served t s₀ [] s₀
  | turn {turns s i es a s'} (h : Served t s₀ turns s)
    (hgoes : (t i).Goes { s with busy := true } es (.done a) s') :
    Served t s₀ (turns ++ [⟨i, .acquired :: (es ++ [.released]), a⟩]) { s' with busy := false }
  | trouble {turns s} (h : Served t s₀ turns s) (readsFail writesFail refuses) :
    Served t s₀ turns (s.troubled readsFail writesFail refuses)

/-- Every page that was opened was opened in somebody's turn. -/
theorem Served.length_launched {t : ι → Work α} {s₀ s : Session} {turns : List (Turn ι α)}
    (h : Served t s₀ turns s) :
    s.launched.length = s₀.launched.length + launches (turns.flatMap Turn.events) := by
  induction h with
  | refl => rfl
  | @turn turns s i es a s' _ hgoes ih =>
    have hlaunched : s'.launched.length = s.launched.length + launches es := hgoes.length_launched
    rw [List.flatMap_append, List.flatMap_singleton, launches_append, launches_turn, hlaunched, ih,
      Nat.add_assoc]
  | trouble _ _ _ _ ih => exact ih

namespace Crowd

/-- Lets the others sign in, and ends. -/
def leave (a : α) : Work α := .release (.done a)

/-- Those who had their turn are done, and those who did not come to acquire have done nothing. -/
structure Settled (t : ι → Work α) (s₀ : Session) (turns : List (Turn ι α)) (s : Session)
    (c : Crowd ι α) : Prop where
  served : Served t s₀ turns s
  nodup : c.order.Nodup
  finished : ∀ u ∈ turns, c.work u.who = .done u.result ∧ c.past u.who = u.events
  waiting : ∀ i ∉ c.order, c.work i = SignIn.alone (t i) ∧ c.past i = []

/-- At any time all who came to acquire had their turn, or the last of them is in the middle of
it. -/
inductive Orderly (t : ι → Work α) (s₀ : Session) (c : Crowd ι α) : Prop where
  | between (turns) (h : Settled t s₀ turns c.session c) (free : c.session.busy = false)
    (order : c.order = turns.map Turn.who)
  | inside (turns s i es w) (h : Settled t s₀ turns s c)
    (order : c.order = turns.map Turn.who ++ [i])
    (goes : (t i).Goes { s with busy := true } es w c.session)
    (work : c.work i = w.bind leave) (past : c.past i = .acquired :: es)

/-- Who had their turn takes no more steps. -/
theorem Settled.no_step {t : ι → Work α} {s₀ s s' : Session} {turns : List (Turn ι α)}
    {c : Crowd ι α} (h : Settled t s₀ turns s c) {i : ι} (hi : i ∈ turns.map Turn.who) {e : Event}
    {w : Work α} : ¬Work.Step (c.work i) c.session e w s' := by
  obtain ⟨u, hu, rfl⟩ := List.mem_map.1 hi
  rw [(h.finished u hu).1]
  rintro ⟨⟩

/-! ### What an orderly crowd comes to -/

variable [DecidableEq ι]

/-- A step of one of the crowd leaves the others as they are. -/
theorem advance_other (c : Crowd ι α) {i j : ι} (h : j ≠ i) (e : Event) (w : Work α) (s : Session) :
    (c.advance i e w s).work j = c.work j ∧ (c.advance i e w s).past j = c.past j :=
  ⟨Function.update_of_ne h _ _, Function.update_of_ne h _ _⟩

theorem advance_self (c : Crowd ι α) (i : ι) (e : Event) (w : Work α) (s : Session) :
    (c.advance i e w s).work i = w ∧ (c.advance i e w s).past i = c.past i ++ [e] :=
  ⟨Function.update_self .., Function.update_self ..⟩

theorem order_advance (c : Crowd ι α) (i : ι) {e : Event} (h : e ≠ .acquired) (w : Work α)
    (s : Session) : (c.advance i e w s).order = c.order := by
  cases e with
  | acquired => exact absurd rfl h
  | _ => rfl

/-- Who had their turn and who waits is settled still when somebody else has taken a step. -/
theorem Settled.advance {t : ι → Work α} {s₀ s s' : Session} {turns : List (Turn ι α)}
    {c : Crowd ι α} (h : Settled t s₀ turns s c) {i : ι} (hi : i ∉ turns.map Turn.who) {e : Event}
    {w : Work α} (hnodup : (c.advance i e w s').order.Nodup)
    (hwaiting : ∀ j ∉ (c.advance i e w s').order, j ≠ i ∧ j ∉ c.order) :
    Settled t s₀ turns s (c.advance i e w s') where
  served := h.served
  nodup := hnodup
  finished u hu := by
    have hne : u.who ≠ i := fun he => hi (he ▸ List.mem_map_of_mem hu)
    obtain ⟨hwork, hpast⟩ := c.advance_other hne e w s'
    rw [hwork, hpast]
    exact h.finished u hu
  waiting j hj := by
    obtain ⟨hne, hj⟩ := hwaiting j hj
    obtain ⟨hwork, hpast⟩ := c.advance_other hne e w s'
    rw [hwork, hpast]
    exact h.waiting j hj

/-- Somebody begins a turn. -/
theorem orderly_begin {t : ι → Work α} {s₀ : Session} {c : Crowd ι α} {turns : List (Turn ι α)}
    (h : Settled t s₀ turns c.session c) (horder : c.order = turns.map Turn.who) {j : ι}
    (hj : j ∉ c.order) :
    Orderly t s₀ (c.advance j .acquired ((t j).bind leave) { c.session with busy := true }) := by
  obtain ⟨hwork, hpast⟩ := c.advance_self j .acquired ((t j).bind leave)
    { c.session with busy := true }
  refine .inside turns c.session j [] (t j) (h.advance (horder ▸ hj) ?_ ?_) ?_ .refl hwork ?_
  · exact List.nodup_append.2 ⟨h.nodup, List.pairwise_singleton _ j, by
      rintro a ha b hb rfl
      exact hj (List.mem_singleton.1 hb ▸ ha)⟩
  · intro i hi
    simpa [Crowd.advance, not_or, and_comm] using hi
  · rw [← horder]
    rfl
  · rw [hpast, (h.waiting j hj).2]
    rfl

/-- The same when the one whose turn it is has taken a step. -/
theorem Settled.advance_inside {t : ι → Work α} {s₀ s s' : Session} {turns : List (Turn ι α)}
    {c : Crowd ι α} (h : Settled t s₀ turns s c) {i : ι}
    (horder : c.order = turns.map Turn.who ++ [i]) {e : Event} (he : e ≠ .acquired) {w : Work α} :
    Settled t s₀ turns s (c.advance i e w s') := by
  have hnodup := List.nodup_append.1 (horder ▸ h.nodup)
  have hmem : i ∈ c.order := horder ▸ List.mem_append_right _ (List.mem_singleton_self i)
  have horder' := c.order_advance i he w s'
  refine h.advance (fun hi => hnodup.2.2 i hi i (List.mem_singleton_self i) rfl) ?_ ?_
  · rw [horder']
    exact h.nodup
  · rw [horder']
    exact fun j hj => ⟨fun hji => hj (hji ▸ hmem), hj⟩

/-- The one whose turn it is goes on. -/
theorem orderly_go_on {t : ι → Work α} {s₀ s s' : Session} {c : Crowd ι α} {turns : List (Turn ι α)}
    {i : ι} {es : List Event} {w w' : Work α} {e : Event} (h : Settled t s₀ turns s c)
    (horder : c.order = turns.map Turn.who ++ [i])
    (hgoes : (t i).Goes { s with busy := true } es w c.session) (hpast : c.past i = .acquired :: es)
    (hstep : Work.Step w c.session e w' s') (he : e ≠ .acquired) :
    Orderly t s₀ (c.advance i e (w'.bind leave) s') := by
  obtain ⟨hwork, hpast'⟩ := c.advance_self i e (w'.bind leave) s'
  refine .inside turns s i (es ++ [e]) w' (h.advance_inside horder he) ?_ (hgoes.step hstep)
    hwork ?_
  · rw [order_advance c i he, horder]
  · rw [hpast', hpast, List.cons_append]

/-- The one whose turn it was lets the others have theirs. -/
theorem orderly_end {t : ι → Work α} {s₀ s : Session} {c : Crowd ι α} {turns : List (Turn ι α)}
    {i : ι} {es : List Event} {a : α} (h : Settled t s₀ turns s c)
    (horder : c.order = turns.map Turn.who ++ [i])
    (hgoes : (t i).Goes { s with busy := true } es (.done a) c.session)
    (hpast : c.past i = .acquired :: es) :
    Orderly t s₀ (c.advance i .released (.done a) { c.session with busy := false }) := by
  have he : Event.released ≠ .acquired := Event.noConfusion
  obtain ⟨hwork, hpast'⟩ := c.advance_self i .released (.done a) { c.session with busy := false }
  have hrest : Settled t s₀ turns s (c.advance i .released (.done a)
      { c.session with busy := false }) := h.advance_inside horder he
  refine .between _ ⟨h.served.turn hgoes, hrest.nodup, ?_, hrest.waiting⟩ rfl ?_
  · intro u hu
    rcases List.mem_append.1 hu with hu | hu
    · exact hrest.finished u hu
    · obtain rfl := List.mem_singleton.1 hu
      exact ⟨hwork, by rw [hpast', hpast, List.cons_append]⟩
  · rw [order_advance c i he, horder, List.map_append]
    rfl

/-- A step keeps the crowd orderly. -/
theorem orderly_step {n : Nat} {t : ι → Work α} (hfree : ∀ i, (t i).Free n) {s₀ : Session}
    {c c' : Crowd ι α} (h : Orderly t s₀ c) (hstep : Step c c') : Orderly t s₀ c' := by
  cases hstep with
  | trouble readsFail writesFail refuses =>
    cases h with
    | between turns h free order =>
      exact .between turns ⟨h.served.trouble _ _ _, h.nodup, h.finished, h.waiting⟩ free order
    | inside turns s i es w h order goes work past =>
      exact .inside turns s i es w ⟨h.served, h.nodup, h.finished, h.waiting⟩ order
        (goes.trouble _ _ _) work past
  | @work j e u s' hj =>
    cases h with
    | between turns h free order =>
      by_cases hmem : j ∈ c.order
      · exact absurd hj (h.no_step (order ▸ hmem))
      · rw [(h.waiting j hmem).1] at hj
        cases hj with
        | acquire _ => exact orderly_begin h order hmem
    | inside turns s i es w h order goes work past =>
      obtain ⟨m, -, hw, hbusy⟩ := (hfree i).goes goes
      by_cases hji : j = i
      · subst hji
        rw [work] at hj
        -- it ends its turn, or it goes on
        rcases Work.step_bind_cases hj with ⟨a, rfl, hend⟩ | ⟨w', rfl, hw'⟩
        · cases hend
          exact orderly_end h order goes past
        · obtain ⟨-, -, -, -, he⟩ := hw.step hw'
          exact orderly_go_on h order goes past hw' he
      · by_cases hmem : j ∈ c.order
        · rw [order, List.mem_append, List.mem_singleton] at hmem
          exact absurd hj (h.no_step (hmem.resolve_right hji))
        · -- it waits for the one whose turn it is
          rw [(h.waiting j hmem).1] at hj
          cases hj with
          | acquire hnot => cases hnot.symm.trans hbusy

end Crowd

end Soql
