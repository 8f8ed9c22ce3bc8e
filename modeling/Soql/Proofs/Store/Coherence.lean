/-
# The token store and its backend agree

The token is held twice, in memory and under three keys of the backend. What a store that
is opened on entries makes of them is a function of the entries (`tokenIn`, `instanceIn`),
and that the token in memory is what the entries tell is the invariant of a store
(`Coherent`). It holds of a store that was just opened, whatever the entries are, and it is
kept by writes that change the token in memory as they change what the entries tell.

Key definitions: `TokenStore.tokenIn`, `TokenStore.instanceIn`, `TokenStore.Coherent`,
`TokenStore.knownInstance`, `TokenStore.Mirrors`.
Key theorems: `TokenStore.coherent_openOn`, `TokenStore.Coherent.openOn_eq`,
`TokenStore.tokenIn_putAll_entriesOf`, `TokenStore.mirrors_put`, `TokenStore.mirrors_clear`,
`TokenStore.mirrors_setInstanceUrl`.
-/
import Soql.Proofs.Store.Backend
import Soql.Store.TokenStore

namespace Soql

open StateFile

namespace TokenStore

/-! ### What entries tell -/

/-- The instance that is known from entries. -/
def instanceIn (entries : Named Json) (defaultInstance : String) : String :=
  match entries.get? instanceKey with
  | some (.str url) => if url.isEmpty then defaultInstance else url
  | _ => defaultInstance

/-- The token that is known from entries. -/
def tokenIn (entries : Named Json) (defaultInstance : String) : Option Token :=
  match entries.get? accessKey with
  | some (.str access) =>
    if access.isEmpty then none
    else some ⟨access, ((entries.get? issuedAtKey).bind Json.int64?).getD 0,
      instanceIn entries defaultInstance⟩
  | _ => none

theorem loadInstance_eq {b : Backend} (h : b.Readable) (d : String) :
    loadInstance b d = .ok (instanceIn b.held d) := by
  rw [loadInstance, Backend.get_eq_ok.2 ⟨h, rfl⟩, ok_bind, instanceIn]
  cases b.held.get? instanceKey with
  | none => rfl
  | some v => cases v <;> rfl

theorem loadToken_eq {b : Backend} (h : b.Readable) (d : String) :
    loadToken b d = .ok (tokenIn b.held d) := by
  have hget : ∀ key, b.get key = .ok (b.held.get? key) := fun key => Backend.get_eq_ok.2 ⟨h, rfl⟩
  simp only [loadToken, hget, ok_bind, tokenIn, loadInstance_eq h, pure_eq_ok]
  cases b.held.get? accessKey with
  | none => rfl
  | some v =>
    cases v with
    | str access => cases h : access.isEmpty <;> simp [h]
    | _ => rfl

/-- A store is opened where reading does not fail, on what the entries tell. -/
theorem openOn_eq_ok {b : Backend} {d : String} {s : TokenStore} :
    openOn b d = .ok s ↔ b.Readable ∧ s = ⟨b, tokenIn b.held d, d⟩ := by
  constructor
  · intro h
    obtain ⟨t, ht, hs⟩ := bind_eq_ok.1 h
    obtain ⟨v, hv, -⟩ := bind_eq_ok.1 ht
    have hread := (Backend.get_eq_ok.1 hv).1
    rw [loadToken_eq hread d] at ht
    obtain rfl := Except.ok.inj ht
    exact ⟨hread, (Except.ok.inj hs).symm⟩
  · rintro ⟨hread, rfl⟩
    rw [openOn, loadToken_eq hread d, ok_bind, pure_eq_ok]

/-! ### The invariant -/

/-- The token in memory is the one that the entries tell, and the entries can be had again. -/
structure Coherent (s : TokenStore) : Prop where
  token : s.token = tokenIn s.backend.held s.defaultInstance
  durable : s.backend.Durable

theorem coherent_openOn {b : Backend} (hb : b.Opened) {d : String} {s : TokenStore}
    (h : openOn b d = .ok s) : s.Coherent := by
  obtain ⟨-, rfl⟩ := openOn_eq_ok.1 h
  exact ⟨rfl, Backend.durable_of_opened hb⟩

/-- A coherent store is what is opened on its backend. -/
theorem Coherent.openOn_eq {s : TokenStore} (h : s.Coherent) (hread : s.backend.Readable) :
    openOn s.backend s.defaultInstance = .ok s :=
  openOn_eq_ok.2 ⟨hread, by rw [← h.token]⟩

theorem Coherent.reopen_eq {s : TokenStore} (h : s.Coherent) :
    s.reopen = openOn s.backend s.defaultInstance := by
  rw [reopen, Backend.reopen_of_durable h.durable, ok_bind]

theorem instanceUrl_of_tokenIn {l : Named Json} {d : String} {t : Token}
    (h : tokenIn l d = some t) : t.instanceUrl = instanceIn l d := by
  unfold tokenIn at h
  split at h
  · split at h
    · cases h
    · obtain rfl := Option.some.inj h
      rfl
  · cases h

/-- The instance that a store names when it can be read. -/
def knownInstance (s : TokenStore) : String :=
  match s.token with
  | some t => t.instanceUrl
  | none => instanceIn s.backend.held s.defaultInstance

theorem instanceUrl_of_readable {s : TokenStore} (hread : s.backend.Readable) :
    s.instanceUrl = .ok s.knownInstance := by
  unfold instanceUrl knownInstance
  cases s.token with
  | some t => rfl
  | none => exact loadInstance_eq hread _

theorem knownInstance_of_ok {s : TokenStore} {url : String} (h : s.instanceUrl = .ok url) :
    s.knownInstance = url := by
  unfold instanceUrl at h
  unfold knownInstance
  cases htoken : s.token with
  | some t =>
    rw [htoken] at h
    exact Except.ok.inj h
  | none =>
    rw [htoken] at h
    obtain ⟨v, hv, -⟩ := bind_eq_ok.1 h
    exact Except.ok.inj ((loadInstance_eq (Backend.get_eq_ok.1 hv).1 _).symm.trans h)

/-- The instance of a coherent store is the one that the entries tell. -/
theorem Coherent.knownInstance_eq {s : TokenStore} (h : s.Coherent) :
    s.knownInstance = instanceIn s.backend.held s.defaultInstance := by
  unfold knownInstance
  cases htoken : s.token with
  | some t => exact instanceUrl_of_tokenIn (h.token.symm.trans htoken)
  | none => rfl

theorem Coherent.instanceUrl_eq {s : TokenStore} (h : s.Coherent) (hread : s.backend.Readable) :
    s.instanceUrl = .ok (instanceIn s.backend.held s.defaultInstance) := by
  rw [instanceUrl_of_readable hread, h.knownInstance_eq]

/-! ### Writes -/

/-- A change of the entries changes what they tell as the token in memory is changed. -/
structure Mirrors (change : Named Json → Named Json) (then_ : Option Token → Option Token) :
    Prop where
  token : ∀ l d, tokenIn (change l) d = then_ (tokenIn l d)
  rewritable : ∀ l, Rewritable l → Rewritable (change l)

theorem rewritableValue_str (s : String) : RewritableValue (.str s) := ⟨rfl, .str s, .str s⟩

theorem rewritableValue_int64 (n : Int64) : RewritableValue (.int n.toInt) := by
  refine ⟨rfl, .int ⟨n.minValue_le_toInt, ?_⟩, .int _⟩
  have hlt := n.toInt_lt
  have hsize : (UInt64.size : Int) = 2 ^ 64 := rfl
  omega

theorem int64?_toInt (n : Int64) : Json.int64? (.int n.toInt) = some n := by
  rw [Json.int64?, if_pos ⟨n.minValue_le_toInt, n.toInt_le⟩, Int64.ofInt_toInt]

theorem rewritable_putAll_entriesOf (t : Token) {l : Named Json} (h : Rewritable l) :
    Rewritable (Named.putAll (entriesOf t) l) := by
  refine h.putAll ?_
  simp only [entriesOf, List.forall_mem_cons]
  exact ⟨rewritableValue_str _, rewritableValue_int64 _, rewritableValue_str _,
    fun _ h => absurd h List.not_mem_nil⟩

/-- A token that was put is told again, with the default in the place of an instance that has no
text. -/
theorem tokenIn_putAll_entriesOf {t : Token} (haccess : t.access ≠ "") (l : Named Json)
    (d : String) : tokenIn (Named.putAll (entriesOf t) l) d =
      some { t with instanceUrl := if t.instanceUrl = "" then d else t.instanceUrl } := by
  have haccess' : (Named.putAll (entriesOf t) l).get? accessKey = some (.str t.access) := by
    simp [Named.putAll, entriesOf, Named.get?_put, accessKey, issuedAtKey, instanceKey]
  have hissued : (Named.putAll (entriesOf t) l).get? issuedAtKey =
      some (.int t.issuedAt.toInt) := by
    simp [Named.putAll, entriesOf, Named.get?_put, issuedAtKey, instanceKey]
  have hinstance : (Named.putAll (entriesOf t) l).get? instanceKey = some (.str t.instanceUrl) := by
    simp [Named.putAll, entriesOf, Named.get?_put]
  have hurl : instanceIn (Named.putAll (entriesOf t) l) d =
      if t.instanceUrl = "" then d else t.instanceUrl := by
    simp [instanceIn, hinstance]
  simp only [tokenIn, haccess', hissued, hurl, Option.bind_some, int64?_toInt]
  simp [haccess]

theorem mirrors_put {t : Token} (haccess : t.access ≠ "") (hinstance : t.instanceUrl ≠ "") :
    Mirrors (Named.putAll (entriesOf t)) fun _ => some t := by
  refine ⟨fun l d => ?_, fun l hl => rewritable_putAll_entriesOf t hl⟩
  rw [tokenIn_putAll_entriesOf haccess, if_neg hinstance]

theorem mirrors_clear : Mirrors (Named.eraseAll [accessKey, issuedAtKey]) fun _ => none := by
  refine ⟨fun l d => ?_, fun l hl => hl.eraseAll _⟩
  simp [tokenIn, Named.get?_eraseAll]

/-- Clearing leaves the instance known that was known. -/
theorem instanceIn_clear (l : Named Json) (d : String) :
    instanceIn (Named.eraseAll [accessKey, issuedAtKey] l) d = instanceIn l d := by
  simp [instanceIn, Named.get?_eraseAll, instanceKey, accessKey, issuedAtKey]

theorem instanceIn_setInstanceUrl {url : String} (hurl : url ≠ "") (l : Named Json) (d : String) :
    instanceIn (Named.putAll [(instanceKey, .str url)] l) d = url := by
  simp [instanceIn, Named.putAll, Named.get?_put, hurl]

theorem mirrors_setInstanceUrl {url : String} (hurl : url ≠ "") :
    Mirrors (Named.putAll [(instanceKey, .str url)])
      fun token => token.map fun t => { t with instanceUrl := url } := by
  refine ⟨fun l d => ?_, fun l hl => hl.putAll ?_⟩
  · have hne : ∀ m, m ≠ instanceKey →
        (Named.putAll [(instanceKey, .str url)] l).get? m = l.get? m := fun m hm =>
      Named.get?_putAll_of_not_mem (by simpa using hm)
    simp only [tokenIn, hne accessKey (by decide), hne issuedAtKey (by decide),
      instanceIn_setInstanceUrl hurl]
    split
    · split <;> rfl
    · rfl
  · simp only [List.forall_mem_cons]
    exact ⟨rewritableValue_str url, fun _ h => absurd h List.not_mem_nil⟩

/-- A write comes through in the backend and in memory, or it fails and changes neither. -/
theorem write_cases (change : Named Json → Named Json) (then_ : Option Token → Option Token)
    (s : TokenStore) :
    (∃ b, write (Backend.update change) then_ s = (.ok (), ⟨b, then_ s.token, s.defaultInstance⟩) ∧
      b.held = change s.backend.held ∧ (b.Readable ↔ s.backend.Readable) ∧
      ((Rewritable s.backend.held → Rewritable (change s.backend.held)) →
        s.backend.Durable → b.Durable)) ∨
    ∃ e b, write (Backend.update change) then_ s = (.error e, ⟨b, s.token, s.defaultInstance⟩) ∧
      b.held = s.backend.held ∧ b.document? = s.backend.document? ∧
      (s.backend.Durable → b.Durable) := by
  rcases Backend.update_cases change s.backend with
    ⟨b, hb, hheld, hread, hdurable⟩ | ⟨e, b, hb, hheld, hdoc, -, hdurable⟩
  · exact .inl ⟨b, by rw [write, hb], hheld, hread, hdurable⟩
  · exact .inr ⟨e, b, by rw [write, hb], hheld, hdoc, hdurable⟩

end TokenStore

end Soql
