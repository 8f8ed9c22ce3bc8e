/-
# Requests that panic

Work panics where it works out an age that does not fit, and else it comes to what `Work.run` says
(`Work.runOrPanic_cases`). It does not panic on a store that meets a condition under which the ages
fit that it works out, when its writes keep that condition (`Work.Calm`).

Signing in works out no age. For a query and for the status the age at the present is worked out,
before anything is changed. A token that is stored has just been issued, so its age fits. Hence a
request panics exactly when it asks for an age that does not fit (`Service.handle_panics_iff`), and
serving requests does not panic when the age of the token fits at first
(`Service.runOrPanic_serve`), as that of a token from 1970 or later always does.

Key definitions: `Work.Calm`, `TokenStore.AgeFits`, `Request.asksAge`.
Key theorems: `Work.Calm.runOrPanic`, `TokenStore.ageFits_put`, `TokenStore.ageFits_iff`,
`Service.runOrPanic_handle`, `Service.handle_panics_iff`, `Service.runOrPanic_serve`.
-/
import Soql.Proofs.Api.Gate
import Soql.Proofs.SignIn.SingleFlight
import Soql.Proofs.Store.Expiry

namespace Soql

namespace Work

variable {α β : Type}

/-- Work at a time that works out no age that does not fit, as long as the store meets a condition,
and whose writes keep the condition. -/
def Calm (p : TokenStore → Prop) (now : Int64) : Work α → Prop
  | done _ => True
  | acquire t => t.Calm p now
  | release t => t.Calm p now
  | look n t => ∀ s, p s → n.forM s.checkAge = .ok () ∧ (t s).Calm p now
  | change w t => ∀ s, p s → p (w s).2 ∧ (t (w s).1).Calm p now
  | enter _ t => t.Calm p now
  | clock t => (t now).Calm p now
  | nonce t => ∀ text, (t text).Calm p now
  | launch _ t => ∀ l, (t l).Calm p now
  | send _ t => ∀ r, (t r).Calm p now

theorem Calm.bind {p : TokenStore → Prop} {now : Int64} {k : α → Work β} :
    ∀ {t : Work α}, t.Calm p now → (∀ a, (k a).Calm p now) → (t.bind k).Calm p now
  | done a, _, hk => hk a
  | acquire t, ht, hk => Calm.bind (t := t) ht hk
  | release t, ht, hk => Calm.bind (t := t) ht hk
  | look _ _, ht, hk => fun s hs => ⟨(ht s hs).1, (ht s hs).2.bind hk⟩
  | change _ _, ht, hk => fun s hs => ⟨(ht s hs).1, (ht s hs).2.bind hk⟩
  | enter _ t, ht, hk => Calm.bind (t := t) ht hk
  | clock t, ht, hk => Calm.bind (t := t now) ht hk
  | nonce _, ht, hk => fun text => (ht text).bind hk
  | launch _ _, ht, hk => fun l => (ht l).bind hk
  | send _ _, ht, hk => fun r => (ht r).bind hk

theorem calm_getStore {p : TokenStore → Prop} {now : Int64} {k : TokenStore → Work α}
    (hk : ∀ s, p s → (k s).Calm p now) : (getStore >>= k).Calm p now :=
  fun s hs => ⟨rfl, hk s hs⟩

theorem calm_getStoreAt {p : TokenStore → Prop} {n now : Int64} {k : TokenStore → Work α}
    (hfits : ∀ s, p s → s.checkAge n = .ok ()) (hk : ∀ s, p s → (k s).Calm p now) :
    (getStoreAt n >>= k).Calm p now :=
  fun s hs => ⟨hfits s hs, hk s hs⟩

/-- Calm work does not panic. -/
theorem Calm.runOrPanic {p : TokenStore → Prop} {o : Outside} {t : Work α} {s : Session}
    (ht : t.Calm p o.now) (hs : p s.store) : t.runOrPanic o s = .ok (t.run o s) := by
  induction t generalizing s with
  | done a => rfl
  | acquire t ih => exact ih ht hs
  | release t ih => exact ih ht hs
  | look n t ih =>
    obtain ⟨hfits, ht⟩ := ht s.store hs
    rw [Work.runOrPanic, run, hfits]
    exact ih _ ht hs
  | change w t ih =>
    obtain ⟨hafter, ht⟩ := ht s.store hs
    exact ih _ ht hafter
  | enter p t ih => exact ih ht hs
  | clock t ih => exact ih _ ht hs
  | nonce t ih => exact ih _ (ht _) hs
  | launch u t ih => exact ih _ (ht _) hs
  | send c t ih => exact ih _ (ht _) hs

end Work

/-! ### Ages at the present -/

theorem Token.age_of_issuedAt {t : Token} {now : Int64} (h : t.issuedAt = now) :
    t.age now = .ok 0 := by
  have hfits : ¬now.toBitVec.ssubOverflow now.toBitVec = true := by simp [BitVec.ssubOverflow]
  rw [age, h, if_neg hfits, Int64.sub_self]

namespace TokenStore

/-- The age of the token fits, if there is a token. -/
def AgeFits (s : TokenStore) (now : Int64) : Prop := s.checkAge now = .ok ()

theorem ageFits_of_issuedAt {s : TokenStore} {t : Token} {now : Int64} (h : s.token = some t)
    (hissued : t.issuedAt = now) : s.AgeFits now := by
  rw [AgeFits, checkAge_eq_discard h, Token.age_of_issuedAt hissued]
  rfl

theorem SameAs.ageFits {s s' : TokenStore} {now : Int64} (h : s.SameAs s') (hs : s.AgeFits now) :
    s'.AgeFits now := by
  unfold AgeFits checkAge at *
  rwa [h.token]

/-- The age fits after a token was to be stored that has just been issued. -/
theorem ageFits_put {s : TokenStore} {t : Token} {now : Int64} (hissued : t.issuedAt = now)
    (hs : s.AgeFits now) : (s.put t).2.AgeFits now := by
  rcases s.put_cases t with ⟨s', hput, hholds⟩ | ⟨e, s', hput, hsame⟩
  · rw [hput]
    exact ageFits_of_issuedAt hholds.token hissued
  · rw [hput]
    exact hsame.ageFits hs

/-- Without a token there is nothing to panic about. -/
theorem exists_token_of_checkAge {s : TokenStore} {now : Int64} {p : Panic}
    (h : s.checkAge now = .error p) : ∃ t, s.token = some t := by
  cases htoken : s.token with
  | none =>
    rw [checkAge, htoken] at h
    cases h
  | some t => exact ⟨t, rfl⟩

theorem ageFits_iff {s : TokenStore} {now : Int64} (hnow : 0 ≤ now) :
    s.AgeFits now ↔ ∀ t, s.token = some t → ¬t.Overflows now := by
  cases htoken : s.token with
  | none => simp [AgeFits, checkAge, htoken]
  | some t =>
    rw [AgeFits, checkAge_of_token htoken hnow]
    split
    · rename_i hover
      exact iff_of_false (by rintro ⟨⟩) fun h => h t rfl hover
    · rename_i hnot
      refine iff_of_true rfl fun t' ht' => ?_
      obtain rfl := Option.some.inj ht'
      exact hnot

end TokenStore

/-! ### Signing in -/

namespace SignIn

variable {p : TokenStore → Prop} {now : Int64}

theorem calm_accept (hput : ∀ s t, t.issuedAt = now → p s → p (TokenStore.put t s).2)
    (nonce url : String) : (accept nonce url).Calm p now := by
  unfold accept
  cases Grant.ofRedirect nonce url with
  | error e => trivial
  | ok g =>
    have hinstance : (instanceOf g).Calm p now := by
      unfold instanceOf
      cases g.instanceUrl with
      | some url => trivial
      | none => exact Work.calm_getStore fun _ _ => trivial
    refine hinstance.bind fun r => ?_
    cases r with
    | error e => trivial
    | ok instanceUrl =>
      refine fun s hs => ⟨hput s _ rfl hs, ?_⟩
      cases (TokenStore.put ⟨g.token, now, instanceUrl⟩ s).1 <;> trivial

theorem calm_flow (hput : ∀ s t, t.issuedAt = now → p s → p (TokenStore.put t s).2)
    (o : Settings) : (flow o).Calm p now := by
  have hexchange : (exchange o).Calm p now := by
    unfold exchange
    split
    · trivial
    · intro nonce l
      cases l with
      | redirected url => exact calm_accept hput nonce url
      | _ => trivial
  exact hexchange.bind fun _ => trivial

theorem calm_authorize (hput : ∀ s t, t.issuedAt = now → p s → p (TokenStore.put t s).2)
    (o : Settings) : (authorize o).Calm p now :=
  (calm_flow hput o).bind fun _ => trivial

/-- Signing in does not panic, whatever token there is. -/
theorem runOrPanic_authorize (o : Settings) (w : Outside) (s : Session) :
    (authorize o).runOrPanic w s = .ok ((authorize o).run w s) :=
  (calm_authorize (p := fun _ => True) (fun _ _ _ _ => trivial) o).runOrPanic trivial

end SignIn

/-! ### What asks for an age -/

/-- Work that works out an age before all else panics as that does, and else comes to what `run`
says. -/
theorem Work.runOrPanic_asking {α : Type} {w : Outside} {s : Session} {t : Work α} {now : Int64}
    (hcalm : t.Calm (TokenStore.AgeFits · now) w.now)
    (hfirst : ∀ p, s.store.checkAge now = .error p → t.runOrPanic w s = .error p) :
    t.runOrPanic w s = do
      s.store.checkAge now
      return t.run w s := by
  cases h : s.store.checkAge now with
  | error p => exact hfirst p h
  | ok _ => exact hcalm.runOrPanic h

namespace SignIn

theorem calm_ensureToken (o : Settings) (now : Int64) :
    (ensureToken o).Calm (TokenStore.AgeFits · now) now := by
  have hseek :
      (Work.getStoreAt now >>= takeOrSignIn o now).Calm (TokenStore.AgeFits · now) now := by
    refine Work.calm_getStoreAt (fun _ hfits => hfits) fun store _ => ?_
    unfold takeOrSignIn
    cases store.fresh? now with
    | some token => trivial
    | none => exact calm_flow (fun _ _ => TokenStore.ageFits_put) o
  exact hseek.bind fun _ => trivial

theorem runOrPanic_alone {α : Type} (t : Work α) (w : Outside) (s : Session) :
    (alone t).runOrPanic w s = do
      let r ← t.runOrPanic w { s with busy := true }
      return (r.1, { r.2 with busy := false }) :=
  Work.runOrPanic_bind w _ t _

theorem runOrPanic_ensureToken (o : Settings) (w : Outside) (s : Session) :
    (ensureToken o).runOrPanic w s = do
      s.store.checkAge w.now
      return (ensureToken o).run w s := by
  refine Work.runOrPanic_asking (calm_ensureToken o w.now) fun p h => ?_
  simp [ensureToken, runOrPanic_alone, h]

end SignIn

namespace Work

theorem calm_status (now present : Int64) :
    (Work.status now).Calm (TokenStore.AgeFits · now) present := by
  refine calm_getStore fun store _ => ?_
  cases store.instanceUrl with
  | error e => trivial
  | ok url => exact calm_getStoreAt (fun _ hfits => hfits) fun _ _ => trivial

theorem runOrPanic_status (now : Int64) (w : Outside) (s : Session) :
    (Work.status now).runOrPanic w s = do
      s.store.checkAge now
      return (Work.status now).run w s := by
  refine runOrPanic_asking (calm_status now w.now) fun p h => ?_
  obtain ⟨t, htoken⟩ := TokenStore.exists_token_of_checkAge h
  have hurl : s.store.instanceUrl = .ok t.instanceUrl := by rw [TokenStore.instanceUrl, htoken]
  simp [Work.status, hurl, h]

end Work

namespace Api.Executor

theorem calm_execute (x : Executor) (query : String) (now : Int64) :
    (x.execute query).Calm (TokenStore.AgeFits · now) now := by
  have hvalid : x.validToken.Calm (TokenStore.AgeFits · now) now := by
    refine Work.calm_getStoreAt (fun _ hfits => hfits) fun store _ => ?_
    cases store.fresh? now with
    | some token => trivial
    | none =>
      rcases x.signIn with _ | o
      · trivial
      · rcases x.auto with _ | _
        · trivial
        · exact (SignIn.calm_ensureToken o now).bind fun _ => trivial
  refine hvalid.bind fun r => ?_
  cases r with
  | error e => trivial
  | ok token => exact fun _ => trivial

theorem runOrPanic_execute (x : Executor) (query : String) (w : Outside) (s : Session) :
    (x.execute query).runOrPanic w s = do
      s.store.checkAge w.now
      return (x.execute query).run w s :=
  Work.runOrPanic_asking (x.calm_execute query w.now) fun _ h => by simp [execute, validToken, h]

end Api.Executor

/-! ### Requests -/

/-- Whether the age of the token is asked for with a request. -/
def Request.asksAge : Request → Bool
  | .query _ | .status => true
  | .signIn | .compile _ => false

namespace Service

variable (v : Service)

/-- For a request that asks for an age, that is worked out first. No other one panics. -/
theorem runOrPanic_handle (r : Request) (w : Outside) (s : Session) :
    (v.handle r).runOrPanic w s =
      if r.asksAge then do
        s.store.checkAge w.now
        return (v.handle r).run w s
      else .ok ((v.handle r).run w s) := by
  cases r with
  | signIn => simp [handle, Request.asksAge, SignIn.runOrPanic_authorize]
  | query text =>
    simp only [handle, Request.asksAge, Work.runOrPanic_seq, Work.run_seq,
      Api.Executor.runOrPanic_execute]
    cases s.store.checkAge w.now <;> rfl
  | compile q => rfl
  | status =>
    simp only [handle, Request.asksAge, Work.runOrPanic_seq, Work.run_seq, Work.runOrPanic_now,
      ok_bind, Work.run_now, Work.runOrPanic_status]
    cases s.store.checkAge w.now <;> rfl

/-- From 1970 on, a request panics exactly when it asks for the age of a token that was issued too
long ago. -/
theorem handle_panics_iff (r : Request) {w : Outside} (hnow : 0 ≤ w.now) (s : Session) :
    (v.handle r).runOrPanic w s = .error .overflow ↔
      r.asksAge = true ∧ ∃ t, s.store.token = some t ∧ t.Overflows w.now := by
  have hfits := TokenStore.ageFits_iff (s := s.store) hnow
  rw [runOrPanic_handle]
  cases r.asksAge with
  | false => simp
  | true =>
    cases h : s.store.checkAge w.now with
    | ok _ =>
      have hnone := hfits.1 h
      simpa using hnone
    | error p =>
      obtain ⟨⟩ := p
      have hsome : ¬s.store.AgeFits w.now := fun h' => by cases h.symm.trans h'
      rw [hfits] at hsome
      simpa using hsome

theorem calm_handleLine (line : String) (now : Int64) :
    (v.handleLine line).Calm (TokenStore.AgeFits · now) now := by
  unfold handleLine
  cases Request.read line with
  | error e => trivial
  | ok r =>
    cases r with
    | signIn =>
      exact (SignIn.calm_authorize (fun _ _ => TokenStore.ageFits_put) v.signIn).bind
        fun _ => trivial
    | query text => exact (v.executor.calm_execute text now).bind fun _ => trivial
    | compile q => trivial
    | status => exact (Work.calm_status now now).bind fun _ => trivial

theorem calm_serveLines (now : Int64) : ∀ lines : List (List UInt8),
    (v.serveLines lines).Calm (TokenStore.AgeFits · now) now
  | [] => trivial
  | line :: rest => by
    have ih := calm_serveLines now rest
    unfold serveLines
    cases lineText? line with
    | none => trivial
    | some text =>
      by_cases hblank : isBlankString text
      · simpa [hblank] using ih
      · simp only [hblank]
        exact (v.calm_handleLine text now).bind fun _ => ih.bind fun _ => trivial

/-- When the first age fits, so do all that come later, and serving does not panic. -/
theorem runOrPanic_serve {w : Outside} {s : Session} (h : s.store.AgeFits w.now)
    (input : List UInt8) : (v.serve input).runOrPanic w s = .ok ((v.serve input).run w s) :=
  (v.calm_serveLines w.now (cutLines input)).runOrPanic h

/-- From 1970 on, serving does not panic with a token that was issued then or later. -/
theorem runOrPanic_serve_of_issuedAt_nonneg {w : Outside} {s : Session} (hnow : 0 ≤ w.now)
    (h : ∀ t, s.store.token = some t → 0 ≤ t.issuedAt) (input : List UInt8) :
    (v.serve input).runOrPanic w s = .ok ((v.serve input).run w s) :=
  v.runOrPanic_serve
    ((TokenStore.ageFits_iff hnow).2 fun t ht => Token.not_overflows (h t ht) w.now) input

end Service

end Soql
