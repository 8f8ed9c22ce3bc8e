/-
# The instance that comes of signing in

A redirect that names an instance has it stored without the slashes at its end. That its name is not
empty is asked before the slashes are taken off. So an instance of slashes only (`NamesSlashes`) is
taken for a name and stored as the empty text, and a store that is opened on the backend then puts
its default in the place of it (`TokenStore.Holds.openOn_of_access`). Any other redirect leaves an
instance that has a text and is loaded again (`SignIn.instance_of_signIn`).

Key definitions: `TokenStore.KnowsInstance`, `SignIn.NamesSlashes`.
Key theorems: `TokenStore.Holds.openOn_of_access`, `SignIn.Grant.instanceUrl_eq_empty_iff`,
`SignIn.run_knowsInstance`, `SignIn.instance_of_signIn`, `SignIn.slashes_forgotten`.
-/
import Soql.Proofs.SignIn.Outcome
import Soql.Proofs.SignIn.Redirect
import Soql.Proofs.Url.Percent

namespace Soql

/-! ### A store with an instance -/

namespace TokenStore

/-- The default instance has a text, and so has that of the token. -/
structure KnowsInstance (s : TokenStore) : Prop where
  default : s.defaultInstance ≠ ""
  token : ∀ t ∈ s.token, t.instanceUrl ≠ ""

theorem instanceIn_ne_empty (entries : Named Json) {d : String} (hd : d ≠ "") :
    instanceIn entries d ≠ "" := by
  unfold instanceIn
  split
  · split
    · exact hd
    · rename_i hurl
      simpa using hurl
  · exact hd

/-- A store that is opened with a default that has a text knows an instance. -/
theorem knowsInstance_openOn {b : Backend} {d : String} {s : TokenStore} (h : openOn b d = .ok s)
    (hd : d ≠ "") : s.KnowsInstance := by
  obtain ⟨-, rfl⟩ := openOn_eq_ok.1 h
  refine ⟨hd, fun t ht => ?_⟩
  rw [instanceUrl_of_tokenIn ht]
  exact instanceIn_ne_empty b.held hd

theorem KnowsInstance.instanceUrl_ne_empty {s : TokenStore} (h : s.KnowsInstance) {url : String}
    (hurl : s.instanceUrl = .ok url) : url ≠ "" := by
  rw [← knownInstance_of_ok hurl, knownInstance]
  split
  · rename_i t ht
    exact h.token t ht
  · exact instanceIn_ne_empty s.backend.held h.default

theorem SameAs.knowsInstance {s s' : TokenStore} (h : s.SameAs s') (hs : s.KnowsInstance) :
    s'.KnowsInstance :=
  ⟨h.defaultInstance ▸ hs.default, h.token ▸ hs.token⟩

/-- A token that was stored is loaded again, with another default in the place of an instance that
has no text. -/
theorem Holds.openOn_of_access {s s' : TokenStore} {t : Token} (h : s.Holds t s')
    (haccess : t.access ≠ "") (hread : s'.backend.Readable) (d : String) :
    openOn s'.backend d = .ok ⟨s'.backend,
      some { t with instanceUrl := if t.instanceUrl = "" then d else t.instanceUrl }, d⟩ := by
  refine openOn_eq_ok.2 ⟨hread, ?_⟩
  rw [h.held, tokenIn_putAll_entriesOf haccess]

end TokenStore

/-! ### A redirect with an instance -/

namespace SignIn

/-- The instance that counts in a redirect is a text of slashes and nothing else. -/
def NamesSlashes (url : String) : Prop :=
  ∃ f u, Url.readFragment (Text.trim url.toList) = .ok f ∧
    Named.First (FormData.parse f) "instance_url" u ∧ u ≠ "" ∧ ∀ c ∈ u.toList, c = '/'

namespace Grant

variable {nonce url : String} {g : Grant}

/-- A grant has a token, and the instance that counts in the redirect without its slashes. -/
theorem of_ofRedirect (h : ofRedirect nonce url = .ok g) :
    ∃ f, Url.readFragment (Text.trim url.toList) = .ok f ∧ g.token ≠ "" ∧
      ∀ v, g.instanceUrl = some v ↔ ∃ u, Named.First (FormData.parse f) "instance_url" u ∧
        u ≠ "" ∧ v = withoutTrailingSlashes u := by
  cases hread : Url.readFragment (Text.trim url.toList) with
  | error fault =>
    rw [ofRedirect, hread] at h
    cases h
  | ok f =>
    rw [ofRedirect_eq hread, ofPairs_eq_ok_iff] at h
    obtain ⟨-, -, -, htoken, hinstance⟩ := h
    exact ⟨f, rfl, htoken, hinstance⟩

theorem token_ne_empty (h : ofRedirect nonce url = .ok g) : g.token ≠ "" := by
  obtain ⟨f, -, htoken, -⟩ := of_ofRedirect h
  exact htoken

/-- A redirect grants the empty text for an instance exactly when it names slashes only. -/
theorem instanceUrl_eq_empty_iff (h : ofRedirect nonce url = .ok g) :
    g.instanceUrl = some "" ↔ NamesSlashes url := by
  obtain ⟨f, hread, -, hinstance⟩ := of_ofRedirect h
  rw [hinstance]
  constructor
  · rintro ⟨u, hfirst, hne, hu⟩
    exact ⟨f, u, hread, hfirst, hne, withoutTrailingSlashes_eq_empty_iff.1 hu.symm⟩
  · rintro ⟨f', u, hread', hfirst, hne, hu⟩
    obtain rfl := Except.ok.inj (hread.symm.trans hread')
    exact ⟨u, hfirst, hne, (withoutTrailingSlashes_eq_empty_iff.2 hu).symm⟩

/-- An instance that a redirect grants does not end with a slash. -/
theorem getLast?_instanceUrl (h : ofRedirect nonce url = .ok g) {u : String}
    (hu : g.instanceUrl = some u) : ∀ c ∈ u.toList.getLast?, c ≠ '/' := by
  obtain ⟨f, -, -, hinstance⟩ := of_ofRedirect h
  obtain ⟨u', -, -, rfl⟩ := (hinstance u).1 hu
  exact getLast?_withoutTrailingSlashes u'

end Grant

/-- Only a redirect that names slashes leaves a token without an instance. -/
theorem Accepted.instanceUrl_eq_empty_iff {nonce url : String} {now : Int64} {store : TokenStore}
    {t : Token} (h : Accepted nonce url now store t) (hs : store.KnowsInstance) :
    t.instanceUrl = "" ↔ NamesSlashes url := by
  obtain ⟨g, instanceUrl, hg, hinstance, rfl, -⟩ := h
  rw [← Grant.instanceUrl_eq_empty_iff hg]
  unfold Grant.instanceFor at hinstance
  cases hu : g.instanceUrl with
  | some u =>
    rw [hu] at hinstance
    obtain rfl := Except.ok.inj hinstance
    simp
  | none =>
    rw [hu] at hinstance
    simpa using hs.instanceUrl_ne_empty hinstance

/-! ### One that signs in, and many -/

/-- Nobody is sent back with an instance of slashes only. -/
def SendsNoSlashes (w : Outside) : Prop :=
  ∀ n page url, w.launch n page = .redirected url → ¬NamesSlashes url

theorem knowsInstance_authorize {o : Settings} {w : Outside} {s : Session}
    (hs : s.store.KnowsInstance) (hw : SendsNoSlashes w) :
    ((authorize o).run w s).2.store.KnowsInstance := by
  rcases authorize_cases o w s with ⟨t, store, hrun, hgranted, hholds⟩ | ⟨e, store, hrun, -, hsame⟩
  · obtain ⟨-, url, hurl, haccepted⟩ := hgranted
    rw [hrun]
    refine ⟨hholds.defaultInstance ▸ hs.default, fun t' ht' => ?_⟩
    obtain rfl := Option.some.inj (hholds.token.symm.trans ht')
    exact fun hempty => hw _ _ url hurl ((haccepted.instanceUrl_eq_empty_iff hs).1 hempty)
  · rw [hrun]
    exact hsame.knowsInstance hs

theorem knowsInstance_apply {o : Settings} {w : Outside} {s : Session}
    (hs : s.store.KnowsInstance) (hw : SendsNoSlashes w) (step : Step) :
    (step.apply o w s).store.KnowsInstance := by
  cases step with
  | authorize => exact knowsInstance_authorize hs hw
  | ensureToken =>
    rw [Step.apply, run_ensureToken]
    cases s.store.fresh? w.now with
    | some t => exact hs
    | none => exact knowsInstance_authorize hs hw
  | trouble readsFail writesFail refuses => exact ⟨hs.default, hs.token⟩

/-- However many sign in one after another, the store knows an instance as long as nobody is sent
back with slashes for one. -/
theorem run_knowsInstance (o : Settings) {steps : List (Outside × Step)}
    {p : Session × Option (Except SignInError Token)} (h : p.1.store.KnowsInstance)
    (hsteps : ∀ step ∈ steps, SendsNoSlashes step.1) :
    (run o steps p).1.store.KnowsInstance := by
  induction steps generalizing p with
  | nil => exact h
  | cons step steps ih =>
    obtain ⟨hstep, hsteps⟩ := List.forall_mem_cons.1 hsteps
    exact ih (knowsInstance_apply h hstep step.2) hsteps

/-- A redirect grants the empty text for an instance exactly when it names slashes only. Who signs
in on a store that knows an instance, and succeeds, has the token of the redirect stored, with the
instance of the redirect, which does not end with a slash, or else with the one that the store knew.
The instance has a text, and a store that is opened on the backend loads that token, whatever its
own default is, unless the redirect names slashes only. Then the instance is the empty text, and
another token is loaded. -/
theorem instance_of_signIn (o : Settings) :
    (∀ nonce url g, Grant.ofRedirect nonce url = .ok g →
      (g.instanceUrl = some "" ↔ NamesSlashes url)) ∧
    ∀ (w : Outside) (s : Session) (t : Token), s.store.KnowsInstance →
      ((authorize o).run w s).1 = .ok t →
      let s' := ((authorize o).run w s).2.store
      ∃ url g, w.launch s.launched.length (o.pageUrl w.nonce) = .redirected url ∧
        Grant.ofRedirect w.nonce url = .ok g ∧
        s'.token = some t ∧ t.access = g.token ∧ t.access ≠ "" ∧
        (∀ u, g.instanceUrl = some u →
          t.instanceUrl = u ∧ ∀ c ∈ u.toList.getLast?, c ≠ '/') ∧
        (g.instanceUrl = none → s.store.instanceUrl = .ok t.instanceUrl) ∧
        (t.instanceUrl ≠ "" ↔ ¬NamesSlashes url) ∧
        (s'.backend.Readable → ∀ d ≠ "", ∃ s'', TokenStore.openOn s'.backend d = .ok s'' ∧
          (s''.token = some t ↔ ¬NamesSlashes url)) ∧
        (s'.backend.Readable → ¬NamesSlashes url →
          TokenStore.openOn s'.backend s'.defaultInstance = .ok s' ∧
          (s.store.backend.Durable → s'.reopen = .ok s')) := by
  refine ⟨fun nonce url g => Grant.instanceUrl_eq_empty_iff, fun w s t hs h => ?_⟩
  intro s'
  have hholds : s.store.Holds t s' := holds_of_authorize h
  obtain ⟨-, url, hurl, haccepted⟩ := (authorize_eq_ok_iff o w s t).1 h
  have hempty := haccepted.instanceUrl_eq_empty_iff hs
  obtain ⟨g, instanceUrl, hg, hinstance, rfl, -⟩ := haccepted
  have haccess : g.token ≠ "" := Grant.token_ne_empty hg
  refine ⟨url, g, hurl, hg, hholds.token, rfl, haccess, fun u hu => ?_, fun hnone => ?_,
    not_congr hempty, fun hread d hd => ?_, fun hread hnot => ?_⟩
  · rw [Grant.instanceFor, hu] at hinstance
    obtain rfl := Except.ok.inj hinstance
    exact ⟨rfl, Grant.getLast?_instanceUrl hg hu⟩
  · rwa [Grant.instanceFor, hnone] at hinstance
  · refine ⟨_, hholds.openOn_of_access haccess hread d, ?_⟩
    rw [← not_congr hempty]
    by_cases hi : instanceUrl = "" <;> simp [hi, hd]
  · have hopen := hholds.openOn_eq haccess (mt hempty.1 hnot) hread
    refine ⟨hopen, fun hb => ?_⟩
    rw [TokenStore.reopen, Backend.reopen_of_durable (hholds.durable hb), ok_bind, hopen]

/-- The instance in the redirect ends with slashes. -/
theorem instance_of_signIn_slashesAtEnd :
    let o : Settings := { Settings.default with clientId := "client" }
    let url := "app:/#access_token=t&instance_url=https://a.b//&instance_url=/"
    let w : Outside := ⟨1700000000000, "n", fun _ _ => .redirected url, fun _ _ => .error .timeout⟩
    let s := Session.openOn ⟨.ofEntries [], none, TokenStore.commonInstance⟩
    let t : Token := ⟨"t", 1700000000000, "https://a.b"⟩
    s.store.KnowsInstance ∧ ((authorize o).run w s).1 = .ok t ∧ ¬NamesSlashes url ∧
      ((authorize o).run w s).2.store.reopen = .ok ((authorize o).run w s).2.store := by
  have hgrant : Grant.ofRedirect "n"
    "app:/#access_token=t&instance_url=https://a.b//&instance_url=/" =
      .ok ⟨"t", some "https://a.b"⟩ := rfl
  intro o url w s t
  have hs : s.store.KnowsInstance := ⟨by decide, fun t ht => nomatch ht⟩
  have hok : ((authorize o).run w s).1 = .ok t :=
    (authorize_eq_ok_iff o w s t).2 ⟨by decide, url, rfl, _, _, hgrant, rfl, rfl, rfl⟩
  obtain ⟨-, hsigned⟩ := instance_of_signIn o
  obtain ⟨url', g, hurl, -, -, -, -, -, -, hiff, -, hreopen⟩ := hsigned w s t hs hok
  obtain rfl := Launch.redirected.inj hurl
  have hnot : ¬NamesSlashes url := hiff.1 (by decide)
  have hread : ((authorize o).run w s).2.store.backend.Readable :=
    (holds_of_authorize hok).readable.2 rfl
  exact ⟨hs, hok, hnot, (hreopen hread hnot).2 trivial⟩

/-- A slash is taken for the name of an instance, and stored as the empty text: the token that was
had is not the one that is loaded. -/
theorem slashes_forgotten :
    let o : Settings := { Settings.default with clientId := "client" }
    let url := "app:/#access_token=t&instance_url=%2F"
    let w : Outside := ⟨1700000000000, "n", fun _ _ => .redirected url, fun _ _ => .error .timeout⟩
    let s := Session.openOn ⟨.ofEntries [], none, TokenStore.commonInstance⟩
    let s' := ((authorize o).run w s).2.store
    s.store.KnowsInstance ∧ Grant.ofRedirect "n" url = .ok ⟨"t", some ""⟩ ∧
      ((authorize o).run w s).1 = .ok ⟨"t", 1700000000000, ""⟩ ∧
      s'.token = some ⟨"t", 1700000000000, ""⟩ ∧
      (TokenStore.openOn s'.backend s'.defaultInstance).map TokenStore.token =
        .ok (some ⟨"t", 1700000000000, TokenStore.commonInstance⟩) := by
  have hgrant : Grant.ofRedirect "n" "app:/#access_token=t&instance_url=%2F" =
    .ok ⟨"t", some ""⟩ := rfl
  intro o url w s s'
  have hok : ((authorize o).run w s).1 = .ok ⟨"t", 1700000000000, ""⟩ :=
    (authorize_eq_ok_iff o w s _).2 ⟨by decide, url, rfl, _, _, hgrant, rfl, rfl, rfl⟩
  have hholds : s.store.Holds ⟨"t", 1700000000000, ""⟩ s' := holds_of_authorize hok
  have hread : s'.backend.Readable := hholds.readable.2 rfl
  refine ⟨⟨by decide, fun t ht => nomatch ht⟩, hgrant, hok, hholds.token, ?_⟩
  rw [hholds.openOn_of_access (by decide) hread, hholds.defaultInstance]
  rfl

end SignIn

end Soql
