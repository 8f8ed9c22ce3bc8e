/-
# Changing the instance while somebody signs in

Who signs in with a redirect that names no instance asks the store for one, and only then writes the
token to the store, with the instance that was named (`SignIn.Retakes`). Others may write to the
store in between. A change of the instance that comes before the question or after the write is
kept; one that comes between the two is overtaken by the instance from before it
(`SignIn.instance_of_amid`), and that can happen wherever both succeed (`SignIn.exists_overtaken`).

Key definitions: `SignIn.Unnamed`, `Moment.Quiet`, `SignIn.Retakes`, `TokenStore.Names`.
Key theorems: `SignIn.retakes_of_path`, `SignIn.instance_of_amid`, `SignIn.exists_overtaken`.
-/
import Soql.Proofs.Session.Amid

namespace Soql

/-- The address that was brought back. -/
def Moment.redirect? (m : Moment) : Option String :=
  match m.deed with
  | .own (.launched _ (.redirected url)) => some url
  | _ => none

/-- The addresses that were brought back. -/
def redirects (ms : List Moment) : List String := ms.filterMap Moment.redirect?

@[simp]
theorem redirects_append (ms ms' : List Moment) :
    redirects (ms ++ ms') = redirects ms ++ redirects ms' :=
  List.filterMap_append

/-- The work neither reads nor writes the store. -/
def Moment.Quiet (m : Moment) : Prop :=
  match m.deed with
  | .own .looked => False
  | .own (.wrote _) => False
  | _ => True

theorem Moment.Quiet.unwritten {m : Moment} (h : m.Quiet) : m.Unwritten := by
  intro r hd
  rw [Quiet, hd] at h
  exact h

theorem Moment.quiet_of_not_isOwn {m : Moment} (h : m.isOwn = false) : m.Quiet := by
  obtain ⟨deed, before, after⟩ := m
  cases deed with
  | own e => cases h
  | _ => trivial

namespace SignIn

/-- No address that was brought back names an instance. -/
def Unnamed (ms : List Moment) : Prop :=
  ∀ url ∈ redirects ms, ∀ nonce g, Grant.ofRedirect nonce url = .ok g →
    g.instanceUrl = none

theorem Unnamed.of_subset {ms ms' : List Moment} (h : Unnamed ms) (hsub : ms' ⊆ ms) :
    Unnamed ms' := by
  intro url hurl
  obtain ⟨m, hm, hredirect⟩ := List.mem_filterMap.1 hurl
  exact h url (List.mem_filterMap.2 ⟨m, hsub hm, hredirect⟩)

theorem Grant.ofPairs_ok {nonce : String} {pairs : Named String} {g : Grant}
    (h : ofPairs nonce pairs = .ok g) : (filled? "access_token" pairs).map (fun token =>
      ⟨token, (filled? "instance_url" pairs).map withoutTrailingSlashes⟩) = some g := by
  unfold ofPairs at h
  split at h
  · cases h
  split at h
  · cases h
  split at h
  · cases h
  · rename_i token htoken
    rw [htoken]
    exact congrArg some (Except.ok.inj h)

/-- What an address grants does not depend on the text that was sent along. -/
theorem Grant.ofRedirect_unique {nonce nonce' url : String} {g g' : Grant}
    (h : ofRedirect nonce url = .ok g) (h' : ofRedirect nonce' url = .ok g') : g = g' := by
  unfold ofRedirect at h h'
  cases hfragment : Url.readFragment (Text.trim url.toList) with
  | error fault =>
    rw [hfragment] at h
    cases h
  | ok fragment =>
    rw [hfragment] at h h'
    exact Option.some.inj ((ofPairs_ok h).symm.trans (ofPairs_ok h'))

theorem unnamed_of_redirects {ms : List Moment} {nonce url : String} {g : Grant}
    (h : redirects ms = [url]) (hgrant : Grant.ofRedirect nonce url = .ok g)
    (hg : g.instanceUrl = none) : Unnamed ms := by
  intro url' hurl' nonce' g' hgrant'
  rw [h, List.mem_singleton] at hurl'
  obtain rfl := Grant.ofRedirect_unique hgrant (hurl' ▸ hgrant')
  exact hg

/-! ### The question and the write -/

/-- A token is stored with the instance that the store named at an earlier moment, and besides that
the store is neither read nor written. -/
structure Retakes (t : Token) (before : List Moment) (read : Moment) (between : List Moment)
    (write : Moment) (after : List Moment) : Prop where
  looked : read.deed = .own .looked
  named : read.before.instanceUrl = .ok t.instanceUrl
  wrote : write.deed = .own (.wrote (.ok ()))
  put : write.before.put t = (.ok (), write.after)
  quiet : ∀ m ∈ before ++ between ++ after, m.Quiet

/-- Moments with the question and the write among them. -/
def RetakesIn (t : Token) (ms : List Moment) : Prop :=
  ∃ before read between write after, ms = before ++ read :: (between ++ write :: after) ∧
    Retakes t before read between write after

theorem RetakesIn.cons {t : Token} {m : Moment} {ms : List Moment} (h : RetakesIn t ms)
    (hm : m.Quiet) : RetakesIn t (m :: ms) := by
  obtain ⟨before, read, between, write, after, rfl, h⟩ := h
  exact ⟨m :: before, read, between, write, after, rfl, h.1, h.2, h.3, h.4,
    List.forall_mem_cons.2 ⟨hm, h.quiet⟩⟩

theorem RetakesIn.concat {t : Token} {m : Moment} {ms : List Moment} (h : RetakesIn t ms)
    (hm : m.Quiet) : RetakesIn t (ms ++ [m]) := by
  obtain ⟨before, read, between, write, after, rfl, h⟩ := h
  refine ⟨before, read, between, write, after ++ [m], by simp, h.1, h.2, h.3, h.4, ?_⟩
  rw [← List.append_assoc]
  exact List.forall_mem_append.2 ⟨h.quiet, List.forall_mem_singleton.2 hm⟩

/-- What others do in between is no part of it. -/
theorem RetakesIn.of_steps {t : Token} {ms : List Moment} (h : RetakesIn t (steps ms)) :
    RetakesIn t ms := by
  obtain ⟨before, read, between, write, after, hms, h⟩ := h
  obtain ⟨before', rest, rfl, rfl, hrest⟩ := List.filter_eq_append_iff.1 hms
  obtain ⟨others, tail, rfl, hothers, hread, htail⟩ := List.filter_eq_cons_iff.1 hrest
  obtain ⟨between', rest', rfl, rfl, hrest'⟩ := List.filter_eq_append_iff.1 htail
  obtain ⟨others', after', rfl, hothers', hwrite, rfl⟩ := List.filter_eq_cons_iff.1 hrest'
  have quiet {xs : List Moment} (hxs : ∀ m ∈ xs.filter Moment.isOwn, m.Quiet) :
      ∀ m ∈ xs, m.Quiet := fun m hm => by
    cases hown : m.isOwn with
    | true => exact hxs m (List.mem_filter.2 ⟨hm, hown⟩)
    | false => exact Moment.quiet_of_not_isOwn hown
  have hquiet := h.quiet
  simp only [List.forall_mem_append] at hquiet
  refine ⟨before' ++ others, read, between' ++ others', write, after', by simp,
    h.1, h.2, h.3, h.4, ?_⟩
  simp only [List.forall_mem_append]
  exact ⟨⟨⟨quiet hquiet.1.1, fun m hm => Moment.quiet_of_not_isOwn (by simpa using hothers m hm)⟩,
    quiet hquiet.1.2, fun m hm => Moment.quiet_of_not_isOwn (by simpa using hothers' m hm)⟩,
    quiet hquiet.2⟩

/-- Accepting a grant without an instance, step by step. -/
theorem accept_unnamed {nonce url : String} {g : Grant}
    (hgrant : Grant.ofRedirect nonce url = .ok g) (hg : g.instanceUrl = none) :
    accept nonce url = .look none fun s =>
      match s.instanceUrl with
      | .error e => .done (.error (.store e))
      | .ok instanceUrl => .clock fun now => .change (TokenStore.put ⟨g.token, now, instanceUrl⟩)
          fun
          | .error e => .done (.error (.store e))
          | .ok () => .done (.ok ⟨g.token, now, instanceUrl⟩) := by
  unfold accept instanceOf
  rw [hgrant]
  simp only [hg]
  rfl

theorem retakes_of_path_accept {nonce url : String} {g : Grant}
    (hgrant : Grant.ofRedirect nonce url = .ok g) (hg : g.instanceUrl = none) {ms : List Moment}
    {t : Token} (h : (accept nonce url).Path ms (.ok t)) : RetakesIn t ms := by
  rw [accept_unnamed hgrant hg] at h
  obtain ⟨s, ms, rfl, h⟩ := h
  dsimp only at h
  split at h
  · cases h.2
  rename_i instanceUrl hinstance
  obtain ⟨now, c, ms, rfl, s', ms, rfl, h⟩ := h
  dsimp only at h
  split at h
  · cases h.2
  rename_i hput
  obtain ⟨rfl, ⟨⟩⟩ := h
  refine ⟨[], _, [_], _, [], rfl, rfl, hinstance, ?_, Prod.ext hput rfl, ?_⟩
  · exact congrArg (fun r => Deed.own (.wrote r)) hput
  · exact List.forall_mem_singleton.2 trivial

theorem retakes_of_path_exchange {o : Settings} {ms : List Moment} (hms : Unnamed ms)
    {t : Token} (h : (exchange o).Path ms (.ok t)) : RetakesIn t ms := by
  unfold exchange at h
  split at h
  · cases h.2
  obtain ⟨nonce, s, ms, rfl, s', ms, rfl, answer, s'', ms, rfl, h⟩ := h
  cases answer with
  | cancelled => cases h.2
  | failed text => cases h.2
  | redirected url =>
    obtain ⟨c, ms, rfl, h⟩ := h
    cases hgrant : Grant.ofRedirect nonce url with
    | error e =>
      unfold accept at h
      rw [hgrant] at h
      cases h.2
    | ok g =>
      have hg : g.instanceUrl = none := hms url List.mem_cons_self nonce g hgrant
      have hretakes := retakes_of_path_accept hgrant hg h
      refine (((hretakes.cons ?_).cons ?_).cons ?_).cons ?_ <;> trivial

theorem retakes_of_path {o : Settings} {ms : List Moment} (hms : Unnamed ms) {t : Token}
    (h : (authorize o).Path ms (.ok t)) : RetakesIn t ms := by
  obtain ⟨s, ms, rfl, h⟩ := h
  obtain ⟨ms, r, ms', rfl, hflow, hrelease⟩ := Work.path_bind h
  obtain ⟨ms, r', ms'', rfl, hexchange, henter⟩ := Work.path_bind hflow
  obtain ⟨s'', ms'', rfl, rfl, rfl⟩ := henter
  obtain ⟨s', ms', rfl, rfl, rfl⟩ := hrelease
  have hretakes := retakes_of_path_exchange (hms.of_subset (by simp)) hexchange
  refine ((hretakes.concat ?_).concat ?_).cons ?_ <;> trivial

/-! ### A run with the change in between -/

/-- Whoever accepts a grant without an instance may have the instance changed under its hands. -/
theorem exists_overtaken_accept {nonce url : String} {g : Grant}
    (hgrant : Grant.ofRedirect nonce url = .ok g) (hg : g.instanceUrl = none) {s : Session}
    {old u : String} (now : Int64) (hold : s.store.instanceUrl = .ok old)
    (hset : (s.store.setInstanceUrl u).1 = .ok ())
    (hput : ((s.store.setInstanceUrl u).2.put ⟨g.token, now, old⟩).1 = .ok ()) :
    ∃ ms s', (accept nonce url).Amid s ms (.done (.ok ⟨g.token, now, old⟩)) s' ∧
      redirects ms = [] ∧ landed ms = [.setInstanceUrl u] ∧
      s'.store = ((s.store.setInstanceUrl u).2.put ⟨g.token, now, old⟩).2 := by
  let s₁ : Session := { s with store := (s.store.setInstanceUrl u).2 }
  let s₂ : Session := { s₁ with store := (s₁.store.put ⟨g.token, now, old⟩).2 }
  have hrun : (accept nonce url).Amid s [⟨.own .looked, s.store, s.store⟩,
      ⟨.other (.setInstanceUrl u) (s.store.setInstanceUrl u).1, s.store, s₁.store⟩,
      ⟨.own (.time now), s₁.store, s₁.store⟩,
      ⟨.own (.wrote (s₁.store.put ⟨g.token, now, old⟩).1), s₁.store, s₂.store⟩]
      (.done (.ok ⟨g.token, now, old⟩)) s₂ := by
    rw [accept_unnamed hgrant hg]
    refine .own .look ?_
    rw [hold]
    refine .other (.setInstanceUrl u) (.own (.clock now) (.own .change ?_))
    rw [show ((TokenStore.put _ _).1 : Except StoreError Unit) = .ok () from hput]
    exact .refl
  exact ⟨_, _, hrun, rfl, by rw [hset]; rfl, rfl⟩

/-- Wherever somebody signs in with a redirect that names no instance, a change of the instance may
be overtaken. -/
theorem exists_overtaken {o : Settings} (hid : isBlankString o.clientId = false) {s : Session}
    (hfree : s.busy = false) {nonce url : String} {g : Grant}
    (hgrant : Grant.ofRedirect nonce url = .ok g) (hg : g.instanceUrl = none) {old u : String}
    (now : Int64) (hold : s.store.instanceUrl = .ok old)
    (hset : (s.store.setInstanceUrl u).1 = .ok ())
    (hput : ((s.store.setInstanceUrl u).2.put ⟨g.token, now, old⟩).1 = .ok ()) :
    ∃ ms s', (authorize o).Amid s ms (.done (.ok ⟨g.token, now, old⟩)) s' ∧ Unnamed ms ∧
      landed ms = [.setInstanceUrl u] ∧
      s'.store = ((s.store.setInstanceUrl u).2.put ⟨g.token, now, old⟩).2 := by
  obtain ⟨ms, s', haccept, hredirects, hlanded, hstore⟩ := exists_overtaken_accept
    (s := { s with
      busy := true, phase := .exchanging, launched := s.launched ++ [o.pageUrl nonce] })
    hgrant hg now hold hset hput
  let m (e : Event) : Moment := ⟨.own e, s.store, s.store⟩
  obtain ⟨ms₁, hbegun, rfl⟩ : ∃ ms₁,
      (exchange o).Amid { s with busy := true } ms₁ (.done (.ok ⟨g.token, now, old⟩)) s' ∧
      ms₁ = m (.nonce nonce) :: m (.entered .awaitingUser) ::
        m (.launched (o.pageUrl nonce) (.redirected url)) :: m (.entered .exchanging) :: ms := by
    unfold exchange
    rw [if_neg (by simp [hid])]
    exact ⟨_, .own (.nonce nonce) (.own .enter (.own (.launch (.redirected url))
      (.own .enter haccept))), rfl⟩
  have hflow := (hbegun.bind fun r => .enter (phaseAfter r) (.done r)).append (.own .enter .refl)
  have hrun := (hflow.bind fun r => .release (.done r)).append (.own .release .refl)
  refine ⟨_, _, .own (.acquire hfree) hrun, unnamed_of_redirects ?_ hgrant hg, ?_, hstore⟩
  · show url :: redirects (ms ++ [_] ++ [_]) = _
    rw [redirects_append, redirects_append, hredirects]
    rfl
  · show landed (ms ++ [_] ++ [_]) = _
    rw [landed_append, landed_append, hlanded]
    rfl

end SignIn

/-! ### What becomes of the change -/

/-- A store names an instance, and so does its token. -/
def TokenStore.Names (s : TokenStore) (url : String) : Prop :=
  s.instanceUrl = .ok url ∧ s.token.map Token.instanceUrl = some url

theorem TokenStore.names_of_token {s : TokenStore} {t : Token} (h : s.token = some t) :
    s.Names t.instanceUrl :=
  ⟨by rw [instanceUrl, h], by rw [h, Option.map_some]⟩

namespace SignIn

theorem Retakes.token {t : Token} {before : List Moment} {read : Moment} {between : List Moment}
    {write : Moment} {after : List Moment} (h : Retakes t before read between write after) :
    write.after.token = some t := by
  rcases write.before.put_cases t with ⟨s, hput, hholds⟩ | ⟨e, s, hput, -⟩
  · obtain ⟨-, rfl⟩ := Prod.mk.inj (hput.symm.trans h.put)
    exact hholds.token
  · cases (Prod.mk.inj (hput.symm.trans h.put)).1

/-- Somebody signs in with a redirect that names no instance, while somebody else changes the
instance once. The store is asked for the instance once and written to once after that. A change
that comes between the two is overtaken: in the end the store names the instance that it named to
who signed in, which is the one from before the change. A change that comes at any other moment is
kept. -/
theorem instance_of_amid {o : Settings} {s s' : Session} {ms : List Moment} {t : Token}
    (h : (authorize o).Amid s ms (.done (.ok t)) s') (hms : Unnamed ms) {u : String} (hu : u ≠ "")
    (hone : landed ms = [.setInstanceUrl u]) :
    ∃ before read between write after, ms = before ++ read :: (between ++ write :: after) ∧
      Retakes t before read between write after ∧
      s'.store.Names (if landed between = [] then u else t.instanceUrl) ∧
      (landed between ≠ [] → ∀ url, s.store.instanceUrl = .ok url → t.instanceUrl = url) := by
  obtain ⟨before, read, between, write, after, rfl, hr⟩ :=
    (retakes_of_path (hms.of_subset fun _ hm => (List.mem_filter.1 hm).1) h.path).of_steps
  refine ⟨before, read, between, write, after, rfl, hr, ?_⟩
  obtain ⟨_, hbefore, rfl, -, hrest⟩ := follows_append.1 h.follows
  obtain ⟨_, -, rfl, -, hafter⟩ := follows_append.1 hrest
  have hquiet := hr.quiet
  simp only [List.forall_mem_append] at hquiet
  have hunwritten₁ : ∀ m ∈ before, m.Unwritten := fun m hm => (hquiet.1.1 m hm).unwritten
  have hunwritten₃ : ∀ m ∈ after, m.Unwritten := fun m hm => (hquiet.2 m hm).unwritten
  -- without a change after the write the token stays as it was stored
  have hkept (hnone : landed after = []) : s'.store.Names t.instanceUrl :=
    TokenStore.names_of_token ((hafter.sameAs hunwritten₃ hnone).token.trans hr.token)
  rw [landed_append, landed_cons_own hr.looked, landed_append, landed_cons_own hr.wrote] at hone
  have hnamed := TokenStore.knownInstance_of_ok hr.named
  rcases List.append_eq_singleton_iff.1 hone with ⟨hnone, hone⟩ | ⟨hone, hnone⟩
  · rcases List.append_eq_singleton_iff.1 hone with ⟨hnone', hone⟩ | ⟨hone, hnone'⟩
    · obtain ⟨a, b, ha, hset, hb⟩ := hafter.cases_of_landed hunwritten₃ hone
      have htoken : s'.store.token = some { t with instanceUrl := u } := by
        rw [hb.token, (StoreWrite.of_apply_ok hset).1, ha.token, hr.token]
        rfl
      rw [if_pos hnone']
      exact ⟨TokenStore.names_of_token htoken, fun hlanded => absurd hnone' hlanded⟩
    · rw [if_neg (by simp [hone])]
      refine ⟨hkept hnone', fun _ url hurl => ?_⟩
      have hsame := (hbefore.sameAs hunwritten₁ hnone).knownInstance_eq
      rw [← hnamed, hsame, TokenStore.knownInstance_of_ok hurl]
  · obtain ⟨hnone', hnone''⟩ := List.append_eq_nil_iff.1 hnone
    obtain ⟨a, b, -, hset, hb⟩ := hbefore.cases_of_landed hunwritten₁ hone
    have hu' : t.instanceUrl = u := by
      rw [← hnamed, hb.knownInstance_eq, StoreWrite.knownInstance_of_set hu hset]
    rw [if_pos hnone', ← hu']
    exact ⟨hkept hnone'', fun hlanded => absurd hnone' hlanded⟩

/-- Somebody signs in while there is no token, and the change comes in between. -/
theorem instance_of_amid_inBetween :
    let o : Settings := { Settings.default with clientId := "client" }
    let s := Session.openOn ⟨.ofEntries [("instance_url", .str "https://old.my.salesforce.com")],
      none, TokenStore.commonInstance⟩
    let u := "https://new.my.salesforce.com"
    ∃ ms t s', (authorize o).Amid s ms (.done (.ok t)) s' ∧ Unnamed ms ∧ u ≠ "" ∧
      landed ms = [.setInstanceUrl u] ∧ t.instanceUrl = "https://old.my.salesforce.com" ∧
      ∃ before read between write after, ms = before ++ read :: (between ++ write :: after) ∧
        Retakes t before read between write after ∧ landed between ≠ [] := by
  intro o s u
  have hgrant : Grant.ofRedirect "n" "https://a.b/#access_token=t&state=n" = .ok ⟨"t", none⟩ := rfl
  obtain ⟨ms, s', hamid, hms, hone, hstore⟩ := exists_overtaken (o := o) (s := s) (u := u)
    (by decide) rfl hgrant rfl 1700000000000 rfl rfl rfl
  have hu : u ≠ "" := by decide
  obtain ⟨before, read, between, write, after, heq, hretakes, hnames, -⟩ :=
    instance_of_amid hamid hms hu hone
  refine ⟨ms, _, s', hamid, hms, hu, hone, rfl, before, read, between, write, after, heq, hretakes,
    fun hnone => ?_⟩
  rw [if_pos hnone, hstore] at hnames
  exact absurd (Except.ok.inj hnames.1) (by decide)

/-- One of the two is lost although both succeed, and is not lost in either order of the two. -/
theorem instance_overtaken :
    let o : Settings := { Settings.default with clientId := "client" }
    let old := "https://old.my.salesforce.com"
    let new := "https://new.my.salesforce.com"
    let s := Session.openOn ⟨.ofEntries [("instance_url", .str old)], none,
      TokenStore.commonInstance⟩
    let w : Outside := ⟨1700000000000, "n",
      fun _ _ => .redirected "https://a.b/#access_token=t&state=n", fun _ _ => .error .timeout⟩
    let changed (s : Session) : Session := { s with store := (s.store.setInstanceUrl new).2 }
    (∃ ms t s', (authorize o).Amid s ms (.done (.ok t)) s' ∧ Unnamed ms ∧
      landed ms = [.setInstanceUrl new] ∧ s'.store.Names old ∧ ¬s'.store.Names new) ∧
    ((authorize o).run w (changed s)).2.store.Names new ∧
    (changed ((authorize o).run w s).2).store.Names new := by
  intro o old new s w changed
  have hgrant : Grant.ofRedirect "n" "https://a.b/#access_token=t&state=n" = .ok ⟨"t", none⟩ := rfl
  have hid : isBlankString o.clientId = false := by decide
  have hafter : ((authorize o).run w (changed s)).2.store =
      ((changed s).store.put ⟨"t", 1700000000000, new⟩).2 := by
    simp only [authorize, run_alone, flow, exchange, Work.run_seq, hid]
    rfl
  have hbefore : ((authorize o).run w s).2.store = (s.store.put ⟨"t", 1700000000000, old⟩).2 := by
    simp only [authorize, run_alone, flow, exchange, Work.run_seq, hid]
    rfl
  refine ⟨?_, ?_, ?_⟩
  · obtain ⟨ms, s', hamid, hms, hone, hstore⟩ := exists_overtaken (o := o) (s := s) (u := new)
      hid rfl hgrant rfl 1700000000000 rfl rfl rfl
    refine ⟨ms, _, s', hamid, hms, hone, ?_⟩
    rw [hstore]
    exact ⟨⟨rfl, rfl⟩, fun hnames => absurd (Except.ok.inj hnames.1) (by decide)⟩
  · rw [hafter]
    exact ⟨rfl, rfl⟩
  · show ((((authorize o).run w s).2.store.setInstanceUrl new).2).Names new
    rw [hbefore]
    exact ⟨rfl, rfl⟩

end SignIn

end Soql
