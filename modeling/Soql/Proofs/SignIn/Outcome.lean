/-
# What comes of signing in

Signing in ends well exactly when all that it needs is there (`SignIn.Granted`): a client id, a
redirect, a grant in it, an instance, and a backend that takes the token. Then the store holds
the token, in memory and in the backend. In every other case it holds what it held before.

Several who sign in one after another leave the phase that tells how the last one came out.

Key definitions: `TokenStore.Holds`, `TokenStore.SameAs`, `SignIn.Granted`, `SignIn.Step`,
`SignIn.run`.
Key theorems: `TokenStore.put_cases`, `SignIn.accept_cases`, `SignIn.flow_cases`,
`SignIn.run_atRest`, `SignIn.all_or_nothing`.
-/
import Soql.Proofs.Session.Steps
import Soql.SignIn.Flow

namespace Soql

/-! ### Storing a token -/

namespace TokenStore

/-- A store that holds what another one holds, in memory and in the backend. -/
structure SameAs (s s' : TokenStore) : Prop where
  token : s'.token = s.token
  held : s'.backend.held = s.backend.held
  document : s'.document? = s.document?
  defaultInstance : s'.defaultInstance = s.defaultInstance
  durable : s.backend.Durable → s'.backend.Durable

theorem SameAs.refl (s : TokenStore) : s.SameAs s := ⟨rfl, rfl, rfl, rfl, id⟩

/-- A store that another one becomes when it takes a token, in memory and in the backend. -/
structure Holds (s : TokenStore) (t : Token) (s' : TokenStore) : Prop where
  token : s'.token = some t
  held : s'.backend.held = Named.putAll (entriesOf t) s.backend.held
  readable : s'.backend.Readable ↔ s.backend.Readable
  defaultInstance : s'.defaultInstance = s.defaultInstance
  durable : s.backend.Durable → s'.backend.Durable

/-- A token is stored in memory and in the backend, or in neither. -/
theorem put_cases (t : Token) (s : TokenStore) :
    (∃ s', s.put t = (.ok (), s') ∧ s.Holds t s') ∨
      ∃ e s', s.put t = (.error e, s') ∧ s.SameAs s' := by
  rcases write_cases (Named.putAll (entriesOf t)) (fun _ => some t) s with
    ⟨b, hput, hheld, hread, hdurable⟩ | ⟨e, b, hput, hheld, hdoc, hdurable⟩
  · exact .inl ⟨_, hput, rfl, hheld, hread, rfl, hdurable (rewritable_putAll_entriesOf t)⟩
  · exact .inr ⟨e, _, hput, rfl, hheld, hdoc, rfl, hdurable⟩

/-- A token with its texts that was stored is loaded again. -/
theorem Holds.openOn_eq {s s' : TokenStore} {t : Token} (h : s.Holds t s')
    (haccess : t.access ≠ "") (hinstance : t.instanceUrl ≠ "") (hread : s'.backend.Readable) :
    openOn s'.backend s'.defaultInstance = .ok s' := by
  refine openOn_eq_ok.2 ⟨hread, ?_⟩
  rw [h.held, (mirrors_put haccess hinstance).token, ← h.token]

end TokenStore

/-! ### One that signs in -/

namespace SignIn

/-- The instance of a grant, or the one that a store knows. -/
def Grant.instanceFor (g : Grant) (store : TokenStore) : Except StoreError String :=
  match g.instanceUrl with
  | some url => .ok url
  | none => store.instanceUrl

/-- A redirect grants a token, it has an instance, and the store takes it. -/
def Accepted (nonce url : String) (now : Int64) (store : TokenStore) (t : Token) : Prop :=
  ∃ g instanceUrl, Grant.ofRedirect nonce url = .ok g ∧
    g.instanceFor store = .ok instanceUrl ∧ t = ⟨g.token, now, instanceUrl⟩ ∧
    (store.put t).1 = .ok ()

/-- All that signing in needs for a token: a client id, a redirect, and that it is accepted for
the text that was sent along. -/
def Granted (o : Settings) (w : Outside) (s : Session) (t : Token) : Prop :=
  isBlankString o.clientId = false ∧
    ∃ url, w.launch s.launched.length (o.pageUrl w.nonce) = .redirected url ∧
      Accepted w.nonce url w.now s.store t

theorem Accepted.unique {nonce url : String} {now : Int64} {store : TokenStore} {t t' : Token}
    (h : Accepted nonce url now store t) (h' : Accepted nonce url now store t') : t = t' := by
  obtain ⟨g, instanceUrl, hg, hi, rfl, -⟩ := h
  obtain ⟨g', instanceUrl', hg', hi', rfl, -⟩ := h'
  obtain rfl := Except.ok.inj (hg.symm.trans hg')
  obtain rfl := Except.ok.inj (hi.symm.trans hi')
  rfl

theorem Granted.unique {o : Settings} {w : Outside} {s : Session} {t t' : Token}
    (h : Granted o w s t) (h' : Granted o w s t') : t = t' := by
  obtain ⟨-, url, hurl, ht⟩ := h
  obtain ⟨-, url', hurl', ht'⟩ := h'
  obtain rfl := Launch.redirected.inj (hurl.symm.trans hurl')
  exact ht.unique ht'

theorem run_instanceOf (w : Outside) (g : Grant) (s : Session) :
    (instanceOf g).run w s = (g.instanceFor s.store, s) := by
  unfold instanceOf Grant.instanceFor
  cases g.instanceUrl <;> rfl

/-- A redirect is accepted and its token stored, or it is not and the store stays as it was. -/
theorem accept_cases (nonce url : String) (w : Outside) (s : Session) :
    (∃ t store, (accept nonce url).run w s = (.ok t, { s with store }) ∧
      Accepted nonce url w.now s.store t ∧ s.store.Holds t store) ∨
    ∃ e store, (accept nonce url).run w s = (.error e, { s with store }) ∧
      (∀ t, ¬Accepted nonce url w.now s.store t) ∧ s.store.SameAs store := by
  unfold accept
  cases hgrant : Grant.ofRedirect nonce url with
  | error e =>
    refine .inr ⟨e, s.store, rfl, ?_, .refl _⟩
    rintro t ⟨g, _, hg, -⟩
    cases hgrant.symm.trans hg
  | ok g =>
    simp only [Work.run_seq, run_instanceOf]
    cases hinstance : g.instanceFor s.store with
    | error e =>
      refine .inr ⟨.store e, s.store, rfl, ?_, .refl _⟩
      rintro t ⟨g', instanceUrl, hg, hi, -⟩
      obtain rfl := Except.ok.inj (hgrant.symm.trans hg)
      cases hinstance.symm.trans hi
    | ok instanceUrl =>
      simp only [Work.run_seq, Work.run_now, Work.run_write]
      rcases s.store.put_cases ⟨g.token, w.now, instanceUrl⟩ with
        ⟨store, hput, hholds⟩ | ⟨e, store, hput, hsame⟩
      · rw [hput]
        exact .inl ⟨_, store, rfl, ⟨g, instanceUrl, hgrant, hinstance, rfl, by rw [hput]⟩, hholds⟩
      · rw [hput]
        refine .inr ⟨.store e, store, rfl, ?_, hsame⟩
        rintro t ⟨g', instanceUrl', hg, hi, rfl, hok⟩
        obtain rfl := Except.ok.inj (hgrant.symm.trans hg)
        obtain rfl := Except.ok.inj (hinstance.symm.trans hi)
        rw [hput] at hok
        cases hok

/-- The pages that one opens who signs in. -/
def pagesOf (o : Settings) (nonce : String) : List String :=
  if isBlankString o.clientId then [] else [o.pageUrl nonce]

/-- Signing in ends with a token that was granted and is stored, or with an error and the store as
it was. -/
theorem flow_cases (o : Settings) (w : Outside) (s : Session) :
    (∃ t store, (flow o).run w s = (.ok t, { s with
        store, phase := .succeeded, launched := s.launched ++ pagesOf o w.nonce }) ∧
      Granted o w s t ∧ s.store.Holds t store) ∨
    ∃ e store, (flow o).run w s = (.error e, { s with
        store, phase := .failed, launched := s.launched ++ pagesOf o w.nonce }) ∧
      (∀ t, ¬Granted o w s t) ∧ s.store.SameAs store := by
  rw [flow, Work.run_seq, exchange, pagesOf]
  cases hid : isBlankString o.clientId with
  | true =>
    refine .inr ⟨.missingClientId, s.store, ?_, fun t ht => ?_, .refl _⟩
    · simp [Work.run, phaseAfter]
    · cases hid.symm.trans ht.1
  | false =>
    simp only [Bool.false_eq_true, if_false, Work.run]
    cases hlaunch : w.launch s.launched.length (o.pageUrl w.nonce) with
    | cancelled =>
      refine .inr ⟨.cancelled, s.store, rfl, ?_, .refl _⟩
      rintro t ⟨-, url, hurl, -⟩
      cases hlaunch.symm.trans hurl
    | failed text =>
      refine .inr ⟨.launch text, s.store, rfl, ?_, .refl _⟩
      rintro t ⟨-, url, hurl, -⟩
      cases hlaunch.symm.trans hurl
    | redirected url =>
      have hgranted (t : Token) : Granted o w s t ↔ Accepted w.nonce url w.now s.store t := by
        refine ⟨?_, fun h => ⟨hid, url, hlaunch, h⟩⟩
        rintro ⟨-, url', hurl, h⟩
        obtain rfl := Launch.redirected.inj (hlaunch.symm.trans hurl)
        exact h
      simp only [hgranted, Work.run]
      rcases accept_cases w.nonce url w { s with
          phase := .exchanging, launched := s.launched ++ [o.pageUrl w.nonce] } with
        ⟨t, store, hrun, haccepted, hholds⟩ | ⟨e, store, hrun, hnot, hsame⟩
      · rw [hrun]
        exact .inl ⟨t, store, rfl, haccepted, hholds⟩
      · rw [hrun]
        exact .inr ⟨e, store, rfl, hnot, hsame⟩

theorem run_alone {α : Type} (t : Work α) (w : Outside) (s : Session) :
    (alone t).run w s = ((t.run w { s with busy := true }).1,
      { (t.run w { s with busy := true }).2 with busy := false }) := by
  show (t >>= fun r => Work.release (pure r)).run w { s with busy := true } = _
  rw [Work.run_seq]
  rfl

theorem authorize_cases (o : Settings) (w : Outside) (s : Session) :
    (∃ t store, (authorize o).run w s = (.ok t, ⟨store, .succeeded, false,
        s.launched ++ pagesOf o w.nonce, s.calls⟩) ∧ Granted o w s t ∧ s.store.Holds t store) ∨
    ∃ e store, (authorize o).run w s = (.error e, ⟨store, .failed, false,
        s.launched ++ pagesOf o w.nonce, s.calls⟩) ∧ (∀ t, ¬Granted o w s t) ∧
      s.store.SameAs store := by
  rw [authorize, run_alone]
  rcases flow_cases o w { s with busy := true } with
    ⟨t, store, hrun, hgranted, hholds⟩ | ⟨e, store, hrun, hnot, hsame⟩
  · rw [hrun]
    exact .inl ⟨t, store, rfl, hgranted, hholds⟩
  · rw [hrun]
    exact .inr ⟨e, store, rfl, hnot, hsame⟩

theorem authorize_eq_ok_iff (o : Settings) (w : Outside) (s : Session) (t : Token) :
    ((authorize o).run w s).1 = .ok t ↔ Granted o w s t := by
  rcases authorize_cases o w s with ⟨t', store, hrun, hgranted, -⟩ | ⟨e, store, hrun, hnot, -⟩
  · rw [hrun]
    constructor
    · intro h
      obtain rfl := Except.ok.inj h
      exact hgranted
    · intro h
      rw [hgranted.unique h]
  · rw [hrun]
    exact ⟨fun h => (nomatch h), fun h => absurd h (hnot t)⟩

theorem holds_of_authorize {o : Settings} {w : Outside} {s : Session} {t : Token}
    (h : ((authorize o).run w s).1 = .ok t) :
    s.store.Holds t ((authorize o).run w s).2.store := by
  rcases authorize_cases o w s with ⟨t', store, hrun, -, hholds⟩ | ⟨e, store, hrun, -⟩
  · rw [hrun] at h ⊢
    obtain rfl := Except.ok.inj h
    exact hholds
  · rw [hrun] at h
    cases h

theorem sameAs_of_authorize {o : Settings} {w : Outside} {s : Session} {e : SignInError}
    (h : ((authorize o).run w s).1 = .error e) :
    s.store.SameAs ((authorize o).run w s).2.store := by
  rcases authorize_cases o w s with ⟨t', store, hrun, -⟩ | ⟨e, store, hrun, -, hsame⟩
  · rw [hrun] at h
    cases h
  · rw [hrun]
    exact hsame

/-- Those who want no more than a token take the one that there is, or sign in for one. -/
theorem run_ensureToken (o : Settings) (w : Outside) (s : Session) :
    (ensureToken o).run w s =
      match s.store.fresh? w.now with
      | some t => (.ok t, { s with busy := false })
      | none => (authorize o).run w s := by
  rw [authorize, ensureToken, run_alone, run_alone]
  simp only [Work.run_seq, Work.run_now, Work.run_getStoreAt]
  cases s.store.fresh? w.now <;> rfl

/-- What those do who sign in, and what becomes of the system under the store meanwhile. -/
inductive Step where
  | authorize
  | ensureToken
  | trouble (readsFail writesFail : Bool) (refuses : Nat → Option SystemError)

namespace Step

/-- The session after a step. -/
def apply (o : Settings) (w : Outside) : Step → Session → Session
  | .authorize, s => ((SignIn.authorize o).run w s).2
  | .ensureToken, s => ((SignIn.ensureToken o).run w s).2
  | .trouble readsFail writesFail refuses, s => s.troubled readsFail writesFail refuses

/-- How signing in came out, if somebody signed in at a step. -/
def outcome? (o : Settings) (w : Outside) : Step → Session → Option (Except SignInError Token)
  | .authorize, s => some ((SignIn.authorize o).run w s).1
  | .ensureToken, s =>
    if (s.store.fresh? w.now).isSome then none else some ((SignIn.ensureToken o).run w s).1
  | .trouble .., _ => none

end Step

/-- The session after steps one after another, each with the world outside as it is then, and how
signing in came out the last time. -/
def run (o : Settings) : List (Outside × Step) → Session × Option (Except SignInError Token) →
    Session × Option (Except SignInError Token)
  | [], p => p
  | (w, step) :: steps, (s, last) => run o steps (step.apply o w s, step.outcome? o w s <|> last)

/-- The phase that tells how signing in came out the last time. -/
def phaseOf : Option (Except SignInError Token) → Phase
  | none => .idle
  | some r => phaseAfter r

/-- What holds between two steps, of a session that began with a backend. -/
structure AtRest (b : Backend) (s : Session) (last : Option (Except SignInError Token)) : Prop where
  phase : s.phase = phaseOf last
  free : s.busy = false
  durable : b.Durable → s.store.backend.Durable

theorem atRest_authorize {b : Backend} {s : Session} {last : Option (Except SignInError Token)}
    (h : AtRest b s last) (o : Settings) (w : Outside) :
    AtRest b ((authorize o).run w s).2 (some ((authorize o).run w s).1) := by
  rcases authorize_cases o w s with ⟨t, store, hrun, -, hholds⟩ | ⟨e, store, hrun, -, hsame⟩
  · rw [hrun]
    exact ⟨rfl, rfl, fun hb => hholds.durable (h.durable hb)⟩
  · rw [hrun]
    exact ⟨rfl, rfl, fun hb => hsame.durable (h.durable hb)⟩

theorem atRest_apply {b : Backend} {s : Session} {last : Option (Except SignInError Token)}
    (h : AtRest b s last) (o : Settings) (w : Outside) (step : Step) :
    AtRest b (step.apply o w s) (step.outcome? o w s <|> last) := by
  cases step with
  | authorize => exact atRest_authorize h o w
  | ensureToken =>
    rw [Step.apply, Step.outcome?, run_ensureToken]
    cases hfresh : s.store.fresh? w.now with
    | none => exact atRest_authorize h o w
    | some t => exact ⟨h.phase, rfl, h.durable⟩
  | trouble readsFail writesFail refuses =>
    exact ⟨h.phase, h.free, fun hb => Backend.durable_troubled (h.durable hb) _ _ _⟩

theorem run_atRest (o : Settings) {b : Backend} {steps : List (Outside × Step)}
    {p : Session × Option (Except SignInError Token)} (h : AtRest b p.1 p.2) :
    AtRest b (run o steps p).1 (run o steps p).2 := by
  induction steps generalizing p with
  | nil => exact h
  | cons step steps ih => exact ih (atRest_apply h o step.1 step.2)

/-- Whoever signed in before and whatever fails, the phase tells how signing in came out the last
time. Signing in once more ends with a token exactly when one is granted, and then the store holds
it and loads it again; otherwise the store holds what it held, in memory and in the backend. One
page is opened, or none when there is no client id. A token that is not stale is had without any of
that. -/
theorem all_or_nothing (o : Settings) (store : TokenStore) (steps : List (Outside × Step)) :
    let s := (run o steps (Session.openOn store, none)).1
    let last := (run o steps (Session.openOn store, none)).2
    ((s.phase = .idle ↔ last = none) ∧ (s.phase = .succeeded ↔ ∃ t, last = some (.ok t)) ∧
      (s.phase = .failed ↔ ∃ e, last = some (.error e))) ∧
    ∀ w : Outside,
      let r := ((authorize o).run w s).1
      let s' := ((authorize o).run w s).2
      (∀ t, r = .ok t ↔ Granted o w s t) ∧
      (∀ t, r = .ok t → s'.store.token = some t ∧
        (t.access ≠ "" → t.instanceUrl ≠ "" → s'.store.backend.Readable →
          TokenStore.openOn s'.store.backend s'.store.defaultInstance = .ok s'.store ∧
          (store.backend.Opened → s'.store.reopen = .ok s'.store))) ∧
      (∀ e, r = .error e → s'.store.token = s.store.token ∧
        (∀ key, s'.store.backend.held.get? key = s.store.backend.held.get? key) ∧
        s'.store.document? = s.store.document?) ∧
      s'.launched = s.launched ++ (if isBlankString o.clientId then [] else [o.pageUrl w.nonce]) ∧
      (∀ t, s.store.fresh? w.now = some t → (ensureToken o).run w s = (.ok t, s)) ∧
      (s.store.fresh? w.now = none → (ensureToken o).run w s = (authorize o).run w s) := by
  intro s last
  have hrest : AtRest store.backend s last := run_atRest o ⟨rfl, rfl, id⟩
  refine ⟨?_, fun w => ?_⟩
  · rw [hrest.phase]
    rcases last with _ | e | t <;> simp [phaseOf, phaseAfter]
  intro r s'
  have hlaunched : s'.launched = s.launched ++ pagesOf o w.nonce := by
    rcases authorize_cases o w s with ⟨t, store, hrun, -⟩ | ⟨e, store, hrun, -⟩ <;>
      simp only [s', hrun]
  have hensure := run_ensureToken o w s
  refine ⟨fun t => ?_, fun t ht => ?_, fun e he => ?_, hlaunched, fun t ht => ?_, fun hnone => ?_⟩
  · exact authorize_eq_ok_iff o w s t
  · have hholds := holds_of_authorize ht
    refine ⟨hholds.token, fun haccess hinstance hread => ?_⟩
    have hopen := hholds.openOn_eq haccess hinstance hread
    refine ⟨hopen, fun hb => ?_⟩
    have hdurable := hholds.durable (hrest.durable (Backend.durable_of_opened hb))
    rw [TokenStore.reopen, Backend.reopen_of_durable hdurable, ok_bind, hopen]
  · have hsame := sameAs_of_authorize he
    exact ⟨hsame.token, fun key => by rw [hsame.held], hsame.document⟩
  · rw [hensure, ht]
    simp only [← hrest.free]
  · rw [hensure, hnone]

/-- Somebody gives up, and the next one is sent on with a token that names no instance. -/
theorem all_or_nothing_secondTry :
    let o : Settings := { Settings.default with clientId := "client" }
    let store : TokenStore := ⟨.ofEntries [], none, TokenStore.commonInstance⟩
    let world (l : Launch) : Outside :=
      ⟨1700000000000, "n", fun _ _ => l, fun _ _ => .error .timeout⟩
    let w := world (.redirected "https://a.b/#access_token=t&state=n")
    let t : Token := ⟨"t", 1700000000000, TokenStore.commonInstance⟩
    let s := (run o [(world .cancelled, .authorize)] (Session.openOn store, none)).1
    s.phase = .failed ∧ Granted o w s t ∧ ((authorize o).run w s).1 = .ok t ∧
      ((authorize o).run w s).2.store.reopen = .ok ((authorize o).run w s).2.store := by
  intro o store world w t s
  obtain ⟨⟨-, -, hfailed⟩, hnext⟩ := all_or_nothing o store [(world .cancelled, .authorize)]
  obtain ⟨hiff, hok, -⟩ := hnext w
  have hid : isBlankString o.clientId = false := by decide
  have hfirst : run o [(world .cancelled, .authorize)] (Session.openOn store, none) =
      (⟨store, .failed, false, [o.pageUrl "n"], []⟩, some (.error .cancelled)) := by
    simp only [run, Step.apply, Step.outcome?, authorize, run_alone, flow, Work.run_seq, exchange,
      hid]
    rfl
  have hgranted : Granted o w s t := by
    simp only [s, hfirst]
    exact ⟨hid, _, rfl, ⟨"t", none⟩, TokenStore.commonInstance, rfl, rfl, rfl, rfl⟩
  have ht := (hiff t).2 hgranted
  have hread : ((authorize o).run w s).2.store.backend.Readable := by
    rw [(holds_of_authorize ht).readable]
    simp only [hfirst]
    rfl
  exact ⟨hfailed.2 ⟨.cancelled, by rw [hfirst]⟩, hgranted, ht,
    ((hok t ht).2 (by decide) (by decide) hread).2 (.memory _)⟩

end SignIn

end Soql
