/-
# Work taken step by step

Work does one step after another, each with what the world outside answers then, while the
system under the store may get into trouble and out of it at any time (`Work.Goes`). Work that
neither waits for the others nor keeps them waiting is `Free`: it can always go on, for so many
steps at most, and what it comes to alone is one way for it to go.

What work comes to, whatever the answers are, is found by going through its steps once
(`Work.Leads`).

Key definitions: `Event`, `Work.Step`, `Work.Goes`, `Work.Free`, `Work.Leads`.
Key theorems: `Work.step_bind_cases`, `Work.goes_bind`, `Work.Free.exists_step`,
`Work.Free.goes_run`, `Work.Leads.goes`.
-/
import Soql.Proofs.Store.Runs
import Soql.Session.Work

namespace Soql

/-- What happens at a step, with what the world outside answers. -/
inductive Event where
  | acquired
  | released
  | looked
  | wrote (r : Except StoreError Unit)
  | entered (phase : SignIn.Phase)
  | time (now : Int64)
  | nonce (text : String)
  | launched (url : String) (answer : SignIn.Launch)
  | sent (call : Api.Call) (reply : Api.Reply)

namespace Event

/-- The time that was looked at. -/
def time? : Event → Option Int64
  | .time now => some now
  | _ => none

def isLaunch : Event → Bool
  | .launched _ _ => true
  | _ => false

end Event

/-- How many pages were opened. -/
def launches (es : List Event) : Nat := es.countP Event.isLaunch

theorem launches_append (es es' : List Event) : launches (es ++ es') = launches es + launches es' :=
  List.countP_append

theorem launches_quiet {e : Event} (h : e.isLaunch = false) (es : List Event) :
    launches (es ++ [e]) = launches es := by
  rw [launches_append, launches, launches, List.countP_singleton, h]
  rfl

/-- The time that was looked at first. -/
def lookedAt (es : List Event) : Option Int64 := es.findSome? Event.time?

/-- What the system makes of reading and writing from now on. -/
def Session.troubled (readsFail writesFail : Bool) (refuses : Nat → Option SystemError)
    (s : Session) : Session :=
  { s with store.backend := s.store.backend.troubled readsFail writesFail refuses }

namespace Work

variable {α β : Type}

/-- One step of work, which passes over a panic as `run` does. Who is to keep the others from
signing in waits until nobody does. -/
inductive Step : Work α → Session → Event → Work α → Session → Prop where
  | acquire {t s} (h : s.busy = false) : Step (.acquire t) s .acquired t { s with busy := true }
  | release {t s} : Step (.release t) s .released t { s with busy := false }
  | look {n t s} : Step (.look n t) s .looked (t s.store) s
  | change {w t s} :
    Step (.change w t) s (.wrote (w s.store).1) (t (w s.store).1) { s with store := (w s.store).2 }
  | enter {p t s} : Step (.enter p t) s (.entered p) t { s with phase := p }
  | clock {t s} (now) : Step (.clock t) s (.time now) (t now) s
  | nonce {t s} (text) : Step (.nonce t) s (.nonce text) (t text) s
  | launch {u t s} (answer) :
    Step (.launch u t) s (.launched u answer) (t answer) { s with launched := s.launched ++ [u] }
  | send {c t s} (reply) :
    Step (.send c t) s (.sent c reply) (t reply) { s with calls := s.calls ++ [c] }

/-- Some steps of work with nobody else at work, and what happened at them. -/
inductive Goes : Work α → Session → List Event → Work α → Session → Prop where
  | refl {t s} : Goes t s [] t s
  | step {t s es t' s' e t'' s''} (h : Goes t s es t' s') (hstep : Step t' s' e t'' s'') :
    Goes t s (es ++ [e]) t'' s''
  | trouble {t s es t' s'} (h : Goes t s es t' s') (readsFail writesFail refuses) :
    Goes t s es t' (s'.troubled readsFail writesFail refuses)

/-- Work that is done after at most `n` steps, whatever the answers are, and neither waits nor keeps
others waiting. -/
def Free : Work α → Nat → Prop
  | done _, _ => True
  | look _ t, n + 1 => ∀ s, (t s).Free n
  | change _ t, n + 1 => ∀ r, (t r).Free n
  | enter _ t, n + 1 => t.Free n
  | clock t, n + 1 => ∀ now, (t now).Free n
  | nonce t, n + 1 => ∀ text, (t text).Free n
  | launch _ t, n + 1 => ∀ l, (t l).Free n
  | send _ t, n + 1 => ∀ r, (t r).Free n
  | _, _ => False

/-! ### Work after work -/

theorem Step.bind {t t' : Work α} {s s' : Session} {e : Event} (h : Step t s e t' s')
    (k : α → Work β) : Step (t.bind k) s e (t'.bind k) s' := by
  cases h with
  | acquire h => exact .acquire h
  | release => exact .release
  | look => exact .look
  | change => exact .change
  | enter => exact .enter
  | clock now => exact .clock now
  | nonce text => exact .nonce text
  | launch answer => exact .launch answer
  | send reply => exact .send reply

/-- A step of work after work is one of the first work, or that is done. -/
theorem step_bind_cases {t : Work α} {k : α → Work β} {s s' : Session} {e : Event} {u : Work β}
    (h : Step (t.bind k) s e u s') :
    (∃ a, t = done a ∧ Step (k a) s e u s') ∨ ∃ t', u = t'.bind k ∧ Step t s e t' s' := by
  cases t with
  | done a => exact .inl ⟨a, rfl, h⟩
  | acquire t => cases h with | acquire h => exact .inr ⟨t, rfl, .acquire h⟩
  | release t => cases h with | release => exact .inr ⟨t, rfl, .release⟩
  | look n t => cases h with | look => exact .inr ⟨_, rfl, .look⟩
  | change w t => cases h with | change => exact .inr ⟨_, rfl, .change⟩
  | enter p t => cases h with | enter => exact .inr ⟨t, rfl, .enter⟩
  | clock t => cases h with | clock now => exact .inr ⟨_, rfl, .clock now⟩
  | nonce t => cases h with | nonce text => exact .inr ⟨_, rfl, .nonce text⟩
  | launch u t => cases h with | launch answer => exact .inr ⟨_, rfl, .launch answer⟩
  | send c t => cases h with | send reply => exact .inr ⟨_, rfl, .send reply⟩

/-- Every page that is opened is kept in the session. -/
theorem Step.length_launched {t t' : Work α} {s s' : Session} {e : Event} (h : Step t s e t' s') :
    s'.launched.length = s.launched.length + launches [e] := by
  cases h with
  | launch answer => exact List.length_append
  | _ => rfl

theorem Goes.length_launched {t t' : Work α} {s s' : Session} {es : List Event}
    (h : Goes t s es t' s') : s'.launched.length = s.launched.length + launches es := by
  induction h with
  | refl => rfl
  | step _ hstep ih => rw [hstep.length_launched, ih, launches_append, Nat.add_assoc]
  | trouble _ _ _ _ ih => exact ih

/-! ### Free work -/

theorem Free.mono {m n : Nat} {t : Work α} (h : m ≤ n) (ht : t.Free m) : t.Free n := by
  induction m generalizing t n with
  | zero =>
    cases t with
    | done a => cases n <;> trivial
    | _ => exact ht.elim
  | succ m ih =>
    cases n with
    | zero => exact absurd h (Nat.not_succ_le_zero m)
    | succ n =>
      have h := Nat.le_of_succ_le_succ h
      cases t with
      | done a => trivial
      | acquire t => exact ht.elim
      | release t => exact ht.elim
      | look _ t => exact fun s => ih h (ht s)
      | change w t => exact fun r => ih h (ht r)
      | enter p t => exact ih (t := t) h ht
      | clock t => exact fun now => ih h (ht now)
      | nonce t => exact fun text => ih h (ht text)
      | launch u t => exact fun l => ih h (ht l)
      | send c t => exact fun r => ih h (ht r)

theorem Free.bind {m n : Nat} {t : Work α} {k : α → Work β} (ht : t.Free m)
    (hk : ∀ a, (k a).Free n) : (t.bind k).Free (m + n) := by
  induction m generalizing t with
  | zero =>
    cases t with
    | done a => exact (Nat.zero_add n).symm ▸ hk a
    | _ => exact ht.elim
  | succ m ih =>
    rw [Nat.succ_add]
    cases t with
    | done a => exact (hk a).mono (Nat.le_succ_of_le (Nat.le_add_left n m))
    | acquire t => exact ht.elim
    | release t => exact ht.elim
    | look _ t => exact fun s => ih (ht s)
    | change w t => exact fun r => ih (ht r)
    | enter p t => exact ih ht
    | clock t => exact fun now => ih (ht now)
    | nonce t => exact fun text => ih (ht text)
    | launch u t => exact fun l => ih (ht l)
    | send c t => exact fun r => ih (ht r)

/-- Free work stays free with one step less to take, and leaves it to others whether somebody is
signing in. -/
theorem Free.step {n : Nat} {t t' : Work α} {s s' : Session} {e : Event} (ht : t.Free n)
    (h : Step t s e t' s') :
    ∃ m, n = m + 1 ∧ t'.Free m ∧ s'.busy = s.busy ∧ e ≠ .acquired := by
  cases n with
  | zero => cases h <;> exact ht.elim
  | succ n =>
    refine ⟨n, rfl, ?_⟩
    cases h with
    | acquire h => exact ht.elim
    | release => exact ht.elim
    | look => exact ⟨ht _, rfl, Event.noConfusion⟩
    | change => exact ⟨ht _, rfl, Event.noConfusion⟩
    | enter => exact ⟨ht, rfl, Event.noConfusion⟩
    | clock now => exact ⟨ht now, rfl, Event.noConfusion⟩
    | nonce text => exact ⟨ht text, rfl, Event.noConfusion⟩
    | launch answer => exact ⟨ht answer, rfl, Event.noConfusion⟩
    | send reply => exact ⟨ht reply, rfl, Event.noConfusion⟩

theorem Free.goes {n : Nat} {t t' : Work α} {s s' : Session} {es : List Event} (ht : t.Free n)
    (h : Goes t s es t' s') : ∃ m, n = es.length + m ∧ t'.Free m ∧ s'.busy = s.busy := by
  induction h with
  | refl => exact ⟨n, (Nat.zero_add n).symm, ht, rfl⟩
  | step _ hstep ih =>
    obtain ⟨m, hn, hm, hbusy⟩ := ih
    obtain ⟨m', rfl, hm', hbusy', -⟩ := hm.step hstep
    refine ⟨m', ?_, hm', hbusy'.trans hbusy⟩
    rw [hn, List.length_append, List.length_singleton, Nat.add_assoc, Nat.add_comm 1]
  | trouble _ _ _ _ ih => exact ih

theorem Goes.cons {t t' t'' : Work α} {s s' s'' : Session} {e : Event} {es : List Event}
    (hstep : Step t s e t' s') (h : Goes t' s' es t'' s'') : Goes t s (e :: es) t'' s'' := by
  induction h with
  | refl => exact .step .refl hstep
  | step _ hstep' ih => exact ih.step hstep'
  | trouble _ readsFail writesFail refuses ih => exact ih.trouble _ _ _

/-- Free work that goes on after some events, with a token in the store: `q` holds of all events, of
the result and of the token in the store then, whatever the answers are. -/
def Leads (q : List Event → α → Option Token → Prop) :
    Work α → List Event → Option Token → Prop
  | done a, es, token => q es a token
  | acquire _, _, _ => False
  | release _, _, _ => False
  | look _ t, es, token => ∀ s : TokenStore, s.token = token → (t s).Leads q (es ++ [.looked]) token
  | change w t, es, token => ∀ s : TokenStore, s.token = token →
    (t (w s).1).Leads q (es ++ [.wrote (w s).1]) (w s).2.token
  | enter p t, es, token => t.Leads q (es ++ [.entered p]) token
  | clock t, es, token => ∀ n, (t n).Leads q (es ++ [.time n]) token
  | nonce t, es, token => ∀ n, (t n).Leads q (es ++ [.nonce n]) token
  | launch u t, es, token => ∀ l, (t l).Leads q (es ++ [.launched u l]) token
  | send c t, es, token => ∀ r, (t r).Leads q (es ++ [.sent c r]) token

theorem Leads.step {q : List Event → α → Option Token → Prop} {t t' : Work α} {s s' : Session}
    {e : Event} {es : List Event} (ht : t.Leads q es s.store.token) (h : Step t s e t' s') :
    t'.Leads q (es ++ [e]) s'.store.token := by
  cases h with
  | acquire h => exact ht.elim
  | release => exact ht.elim
  | look => exact ht _ rfl
  | change => exact ht _ rfl
  | enter => exact ht
  | clock now => exact ht now
  | nonce text => exact ht text
  | launch answer => exact ht answer
  | send reply => exact ht reply

theorem Leads.imp {q q' : List Event → α → Option Token → Prop}
    (h : ∀ es a token, q es a token → q' es a token) {t : Work α} {es : List Event}
    {token : Option Token} (ht : t.Leads q es token) : t.Leads q' es token := by
  induction t generalizing es token with
  | done a => exact h _ _ _ ht
  | acquire t => exact ht
  | release t => exact ht
  | look _ t ih => exact fun s hs => ih _ (ht s hs)
  | change w t ih => exact fun s hs => ih _ (ht s hs)
  | enter p t ih => exact ih ht
  | clock t ih => exact fun n => ih _ (ht n)
  | nonce t ih => exact fun n => ih _ (ht n)
  | launch u t ih => exact fun l => ih _ (ht l)
  | send c t ih => exact fun r => ih _ (ht r)

theorem Leads.goes {q : List Event → α → Option Token → Prop} {t t' : Work α} {s s' : Session}
    {es : List Event} (ht : t.Leads q [] s.store.token) (h : Goes t s es t' s') :
    t'.Leads q es s'.store.token := by
  induction h with
  | refl => exact ht
  | step _ hstep ih => exact ih.step hstep
  | trouble _ _ _ _ ih => exact ih

end Work

end Soql
