/-
# The status while others write to the store

The status is put together from two reads of the store, the instance from the first and the token
from the second (`ReadTwice`). It is the status of the store at one of the two as long as others
only change the instance in between, or only clear the token (`Work.status_of_amid`). A token that
is stored in between makes it a status that the store never had, if it has another time and another
instance than the one before (`Work.exists_torn`).

Key definitions: `ReadTwice`.
Key theorems: `Work.status_of_amid`, `Work.exists_torn`.
-/
import Soql.Proofs.Session.Amid

namespace Soql

/-- The work reads the store twice and does nothing else. -/
structure ReadTwice (before : List Moment) (first : Moment) (between : List Moment)
    (second : Moment) (after : List Moment) : Prop where
  first : first.deed = .own .looked
  second : second.deed = .own .looked
  others : ∀ m ∈ before ++ between ++ after, m.isOwn = false

/-! ### What others do in between -/

namespace Follows

variable {s s' : TokenStore} {ms : List Moment}

/-- While others only change the instance, all else of the status stays as it is. -/
theorem statusOf_eq (h : Follows s ms s') (hown : ∀ m ∈ ms, m.Unwritten)
    (hset : ∀ w ∈ landed ms, ∃ u, w = .setInstanceUrl u) (url : String) (now : Int64) :
    TokenStore.statusOf s'.token url now = TokenStore.statusOf s.token url now := by
  refine h.keeps (P := fun a =>
    TokenStore.statusOf a.token url now = TokenStore.statusOf s.token url now) hown
    (fun a b hab ha => hab.token ▸ ha) (fun w hw a b happly ha => ?_) rfl
  obtain ⟨u, rfl⟩ := hset w hw
  rw [(StoreWrite.of_apply_ok happly).1, ← ha]
  cases a.token <;> rfl

theorem coherent (h : Follows s ms s') (hown : ∀ m ∈ ms, m.Unwritten)
    (hothers : ∀ w ∈ landed ms, w.step.Admissible) (hs : s.Coherent) : s'.Coherent := by
  refine h.keeps hown (fun a b hab ha => hab.coherent ha) (fun w hw a b happly ha => ?_) hs
  have hb := TokenStore.coherent_apply ha (hothers w hw)
  rwa [show w.step.apply a = (.ok (), b) from happly] at hb

/-- While others only clear the token, the instance stays as it is. -/
theorem knownInstance_eq (h : Follows s ms s') (hown : ∀ m ∈ ms, m.Unwritten)
    (hclear : ∀ w ∈ landed ms, w = .clear) (hs : s.Coherent) :
    s'.knownInstance = s.knownInstance := by
  have hs' := h.coherent hown (fun w hw => hclear w hw ▸ trivial) hs
  rw [hs'.knownInstance_eq, hs.knownInstance_eq]
  refine h.keeps (P := fun a => TokenStore.instanceIn a.backend.held a.defaultInstance =
    TokenStore.instanceIn s.backend.held s.defaultInstance) hown
    (fun a b hab ha => by rw [hab.held, hab.defaultInstance, ha]) (fun w hw a b happly ha => ?_) rfl
  obtain ⟨-, hheld, hdefault, -⟩ := StoreWrite.of_apply_ok happly
  rw [hheld, hdefault, ← ha, hclear w hw]
  exact TokenStore.instanceIn_clear _ _

end Follows

/-! ### The two reads -/

theorem TokenStore.status_eq {s : TokenStore} {url : String} (h : s.instanceUrl = .ok url)
    (now : Int64) : s.status now = .ok (statusOf s.token url now) := by
  rw [status, h]
  rfl

theorem TokenStore.issuedAt_statusOf (token : Option Token) (url : String) (now : Int64) :
    (statusOf token url now).issuedAt = token.map Token.issuedAt := by
  cases token <;> rfl

namespace Work

/-- The status, step by step. -/
theorem status_eq (now : Int64) :
    status now = .look none fun a =>
      match a.instanceUrl with
      | .error e => .done (.error e)
      | .ok url =>
        .look (some now) fun b => .done (.ok (TokenStore.statusOf b.token url now)) := rfl

/-- The status is put together from the instance at one step and the token at the next one. -/
theorem status_of_path {now : Int64} {ms : List Moment} {r : Except StoreError TokenStore.Status}
    (h : (status now).Path ms r) :
    (∃ a e, ms = [⟨.own .looked, a, a⟩] ∧ a.instanceUrl = .error e ∧ r = .error e) ∨
      ∃ a b url, ms = [⟨.own .looked, a, a⟩, ⟨.own .looked, b, b⟩] ∧ a.instanceUrl = .ok url ∧
        r = .ok (TokenStore.statusOf b.token url now) := by
  rw [status_eq] at h
  obtain ⟨a, ms, rfl, h⟩ := h
  dsimp only at h
  cases hinstance : a.instanceUrl with
  | error e =>
    rw [hinstance] at h
    obtain ⟨rfl, rfl⟩ := h
    exact .inl ⟨a, e, rfl, hinstance, rfl⟩
  | ok url =>
    rw [hinstance] at h
    obtain ⟨b, ms, rfl, rfl, rfl⟩ := h
    exact .inr ⟨a, b, url, rfl, hinstance, rfl⟩

/-- Wherever a token is stored that has another time and another instance than the one before, the
status may be one that the store had at no moment. -/
theorem exists_torn {s : Session} {url : String} (hurl : s.store.instanceUrl = .ok url) {t : Token}
    (hput : (s.store.put t).1 = .ok ()) (hother : t.instanceUrl ≠ url)
    (htime : s.store.token.map Token.issuedAt ≠ some t.issuedAt) (now : Int64) :
    ∃ ms r s', (status now).Amid s ms (.done r) s' ∧ landed ms = [.put t] ∧
      r = .ok (TokenStore.statusOf (some t) url now) ∧
      ∀ x ∈ s.store :: ms.map Moment.after, r ≠ x.status now := by
  let s₁ : Session := { s with store := (s.store.put t).2 }
  have htoken : s₁.store.token = some t :=
    (StoreWrite.of_apply_ok (w := .put t) (Prod.ext hput rfl)).1
  have hrun : (status now).Amid s [⟨.own .looked, s.store, s.store⟩,
      ⟨.other (.put t) (s.store.put t).1, s.store, s₁.store⟩,
      ⟨.own .looked, s₁.store, s₁.store⟩]
      (.done (.ok (TokenStore.statusOf s₁.store.token url now))) s₁ := by
    rw [status_eq]
    refine .own .look ?_
    rw [hurl]
    exact .other (.put t) (.own .look .refl)
  rw [htoken] at hrun
  refine ⟨_, _, s₁, hrun, by rw [hput]; rfl, rfl, ?_⟩
  have hbefore : .ok (TokenStore.statusOf (some t) url now) ≠ s.store.status now := by
    rw [TokenStore.status_eq hurl]
    intro heq
    have hissued := congrArg TokenStore.Status.issuedAt (Except.ok.inj heq)
    rw [TokenStore.issuedAt_statusOf, TokenStore.issuedAt_statusOf] at hissued
    exact htime hissued.symm
  have hafter : .ok (TokenStore.statusOf (some t) url now) ≠ s₁.store.status now := by
    rw [TokenStore.status_eq (by rw [TokenStore.instanceUrl, htoken])]
    intro heq
    have hinstance := congrArg TokenStore.Status.instanceUrl (Except.ok.inj heq)
    rw [htoken] at hinstance
    exact hother hinstance.symm
  simp only [List.map_cons, List.map_nil, List.forall_mem_cons]
  exact ⟨hbefore, hbefore, hafter, hafter, fun _ h => absurd h List.not_mem_nil⟩

/-- Whatever others do meanwhile, the status fails as the one read of the store does, or it has the
instance from a first read and all else from a second one. It is the status of the store at the
second read if the store still names that instance then. It is the status at the first read if
others only changed the instance in between, and the one at the second read if they only cleared
the token. -/
theorem status_of_amid {now : Int64} {s s' : Session} {ms : List Moment}
    {r : Except StoreError TokenStore.Status} (h : (status now).Amid s ms (.done r) s') :
    (∃ m ∈ ms, m.deed = .own .looked ∧ (∃ e, r = .error e) ∧ r = m.before.status now) ∨
    ∃ before first between second after url,
      ms = before ++ first :: (between ++ second :: after) ∧
      ReadTwice before first between second after ∧ first.before.instanceUrl = .ok url ∧
      r = .ok (TokenStore.statusOf second.before.token url now) ∧
      (second.before.instanceUrl = .ok url → r = second.before.status now) ∧
      ((∀ w ∈ landed between, ∃ u, w = .setInstanceUrl u) → r = first.before.status now) ∧
      ((∀ w ∈ landed between, w = .clear) → s.store.Coherent →
        (∀ w ∈ landed before, w.step.Admissible) → second.before.backend.Readable →
        r = second.before.status now) := by
  rcases status_of_path h.path with ⟨a, e, hsteps, he, rfl⟩ | ⟨a, b, url, hsteps, hurl, rfl⟩
  · left
    obtain ⟨before, after, rfl, -, -⟩ := steps_eq_cons hsteps
    refine ⟨_, List.mem_append_right _ List.mem_cons_self, rfl, ⟨e, rfl⟩, ?_⟩
    rw [TokenStore.status, he]
    rfl
  right
  obtain ⟨before, rest, rfl, hbefore, hrest⟩ := steps_eq_cons hsteps
  obtain ⟨between, after, rfl, hbetween, hafter⟩ := steps_eq_cons hrest
  obtain ⟨_, hfirst, rfl, -, hfollows⟩ := follows_append.1 h.follows
  obtain ⟨_, hsecond, rfl, -, -⟩ := follows_append.1 hfollows
  have hown₁ : ∀ m ∈ before, m.Unwritten := fun m hm =>
    Moment.unwritten_of_not_isOwn (hbefore m hm)
  have hown₂ : ∀ m ∈ between, m.Unwritten := fun m hm =>
    Moment.unwritten_of_not_isOwn (hbetween m hm)
  have hsame (hb : b.instanceUrl = .ok url) :
      .ok (TokenStore.statusOf b.token url now) = b.status now := (TokenStore.status_eq hb now).symm
  refine ⟨before, _, between, _, after, url, rfl, ⟨rfl, rfl, ?_⟩, hurl, rfl, hsame, ?_, ?_⟩
  · simp only [List.forall_mem_append]
    exact ⟨⟨hbefore, hbetween⟩, steps_eq_nil hafter⟩
  · intro hset
    rw [hsecond.statusOf_eq hown₂ hset, TokenStore.status_eq hurl]
  · intro hclear hs hadmissible hread
    have ha : a.Coherent := hfirst.coherent hown₁ hadmissible hs
    refine hsame ?_
    rw [TokenStore.instanceUrl_of_readable hread, hsecond.knownInstance_eq hown₂ hclear ha,
      TokenStore.knownInstance_of_ok hurl]

/-- The token is cleared between the two reads. -/
theorem status_of_amid_cleared :
    let t : Token := ⟨"a", 1000, "https://one.my.salesforce.com"⟩
    let s := Session.openOn ⟨.ofEntries (TokenStore.entriesOf t), some t, TokenStore.commonInstance⟩
    ∃ ms s', (status 3000).Amid s ms
        (.done (.ok ⟨false, false, none, none, "https://one.my.salesforce.com"⟩)) s' ∧
      s.store.Coherent ∧ landed ms = [.clear] ∧ ∃ m ∈ ms, m.deed = .own .looked ∧
        .ok ⟨false, false, none, none, "https://one.my.salesforce.com"⟩ = m.before.status 3000 := by
  intro t s
  let s₁ : Session := { s with store := s.store.clear.2 }
  have hrun : (status 3000).Amid s [⟨.own .looked, s.store, s.store⟩,
      ⟨.other .clear (.ok ()), s.store, s₁.store⟩, ⟨.own .looked, s₁.store, s₁.store⟩]
      (.done (.ok ⟨false, false, none, none, "https://one.my.salesforce.com"⟩)) s₁ :=
    .own .look (.other .clear (.own .look .refl))
  have hs : s.store.Coherent := ⟨rfl, trivial⟩
  have hreadable : ∀ m ∈ [(⟨.own .looked, s.store, s.store⟩ : Moment),
      ⟨.other .clear (.ok ()), s.store, s₁.store⟩, ⟨.own .looked, s₁.store, s₁.store⟩],
      m.before.backend.Readable := by
    simp only [List.forall_mem_cons]
    exact ⟨rfl, rfl, rfl, fun _ h => absurd h List.not_mem_nil⟩
  refine ⟨_, s₁, hrun, hs, rfl, ?_⟩
  rcases status_of_amid hrun with ⟨m, hm, hlooked, -, hr⟩ |
    ⟨before, first, between, second, after, url, hms, hread, -, -, -, -, hclear⟩
  · exact ⟨m, hm, hlooked, hr⟩
  have hlanded : landed (before ++ first :: (between ++ second :: after)) = [.clear] := hms ▸ rfl
  rw [landed_append, landed_cons_own hread.first, landed_append] at hlanded
  have hcleared {w : StoreWrite} (hw : w ∈ landed before ∨ w ∈ landed between) : w = .clear := by
    refine List.mem_singleton.1 (hlanded ▸ List.mem_append.2 (hw.imp_right fun hw => ?_))
    exact List.mem_append_left _ hw
  have hsecond : second ∈ before ++ first :: (between ++ second :: after) := by simp
  rw [← hms] at hsecond
  exact ⟨second, hsecond, hread.second, hclear (fun w hw => hcleared (.inr hw)) hs
    (fun w hw => hcleared (.inl hw) ▸ trivial) (hreadable second hsecond)⟩

/-- A token is stored between the two reads, and the status has the time of the later token with the
instance of the earlier one. -/
theorem status_torn :
    let s := Session.openOn ⟨.ofEntries [], some ⟨"a", 1000, "https://one.my.salesforce.com"⟩,
      TokenStore.commonInstance⟩
    ∃ ms r s', (status 3000).Amid s ms (.done r) s' ∧
      landed ms = [.put ⟨"b", 2000, "https://two.my.salesforce.com"⟩] ∧
      r = .ok ⟨true, false, some 2000, some 1000, "https://one.my.salesforce.com"⟩ ∧
      ∀ x ∈ s.store :: ms.map Moment.after, r ≠ x.status 3000 :=
  exists_torn rfl rfl (by decide) (by decide) 3000

end Work

end Soql
