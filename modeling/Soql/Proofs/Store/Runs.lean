/-
# Runs of a token store

A store goes through any steps in any order, while the system may refuse to read or to
write at any time. A step comes out well, with what it does to the entries and to the token
in memory, or it fails and does neither (`apply_cases`). So every step keeps the store
coherent, and all that is known of coherent stores holds after every run.

Key definitions: `StoreStep`, `StoreStep.apply`, `StoreWrite`, `TokenStore.run`.
Key theorems: `StoreWrite.apply_cases`, `TokenStore.apply_cases`, `TokenStore.coherent_apply`,
`TokenStore.run_coherent`, `TokenStore.durably_coherent`.
-/
import Soql.Proofs.Store.Coherence

namespace Soql

open StateFile

/-- What the system makes of reading and writing from now on. -/
def Backend.troubled (readsFail writesFail : Bool) (refuses : Nat → Option SystemError) :
    Backend → Backend
  | .memory m => .memory { m with readsFail, writesFail }
  | .file f => .file { f with refuses }

theorem Backend.durable_troubled {b : Backend} (h : b.Durable) (readsFail writesFail : Bool)
    (refuses : Nat → Option SystemError) : (b.troubled readsFail writesFail refuses).Durable := by
  cases b with
  | memory m => trivial
  | file f => exact ⟨h.rewritable, h.onDisk⟩

theorem Backend.held_troubled (b : Backend) (readsFail writesFail : Bool)
    (refuses : Nat → Option SystemError) :
    (b.troubled readsFail writesFail refuses).held = b.held := by
  cases b <;> rfl

/-- The steps of a store and of the system under it. -/
inductive StoreStep where
  | put (t : Token)
  | clear
  | setInstanceUrl (url : String)
  | look (now : Int64)
  /-- Another store is opened on the backend as it is. -/
  | openAgain
  /-- Another store is opened on what the state file has. -/
  | reopen
  | trouble (readsFail writesFail : Bool) (refuses : Nat → Option SystemError)

namespace StoreStep

open TokenStore

/-- A token has its texts, and so has an instance. -/
def Admissible : StoreStep → Prop
  | .put t => t.access ≠ "" ∧ t.instanceUrl ≠ ""
  | .setInstanceUrl url => url ≠ ""
  | _ => True

/-- A store that was opened takes the place of the one before. -/
def replace (opened : Except StoreError TokenStore) (s : TokenStore) :
    Except StoreError Unit × TokenStore :=
  match opened with
  | .ok s' => (.ok (), s')
  | .error e => (.error e, s)

/-- How a step comes out, and the store after it. -/
def apply : StoreStep → TokenStore → Except StoreError Unit × TokenStore
  | .put t, s => s.put t
  | .clear, s => s.clear
  | .setInstanceUrl url, s => s.setInstanceUrl url
  | .look now, s => ((s.status now).map fun _ => (), s)
  | .openAgain, s => replace (openOn s.backend s.defaultInstance) s
  | .reopen, s => replace s.reopen s
  | .trouble readsFail writesFail refuses, s =>
    (.ok (), { s with backend := s.backend.troubled readsFail writesFail refuses })

/-- What a step does to the entries when it comes out well. -/
def change : StoreStep → Named Json → Named Json
  | .put t => Named.putAll (entriesOf t)
  | .clear => Named.eraseAll [accessKey, issuedAtKey]
  | .setInstanceUrl url => Named.putAll [(instanceKey, .str url)]
  | _ => id

/-- What a step does to the token in memory when it comes out well. -/
def then_ : StoreStep → Option Token → Option Token
  | .put t => fun _ => some t
  | .clear => fun _ => none
  | .setInstanceUrl url => fun token => token.map fun t => { t with instanceUrl := url }
  | _ => id

theorem mirrors {step : StoreStep} (h : step.Admissible) : Mirrors step.change step.then_ := by
  cases step with
  | put t => exact mirrors_put h.1 h.2
  | clear => exact mirrors_clear
  | setInstanceUrl url => exact mirrors_setInstanceUrl h
  | _ => exact ⟨fun _ _ => rfl, fun _ hl => hl⟩

end StoreStep

/-- The steps at which a store is written to. -/
inductive StoreWrite where
  | put (t : Token)
  | clear
  | setInstanceUrl (url : String)
deriving DecidableEq, Repr

namespace StoreWrite

def step : StoreWrite → StoreStep
  | .put t => .put t
  | .clear => .clear
  | .setInstanceUrl url => .setInstanceUrl url

/-- How a write comes out, and the store after it. -/
def apply (w : StoreWrite) : TokenStore → Except StoreError Unit × TokenStore := w.step.apply

/-- The backend is written first, and then the token in memory is changed. -/
theorem apply_eq (w : StoreWrite) :
    w.apply = TokenStore.write (Backend.update w.step.change) w.step.then_ := by
  cases w <;> rfl

theorem apply_cases (w : StoreWrite) (s : TokenStore) :
    (∃ b, w.apply s = (.ok (), ⟨b, w.step.then_ s.token, s.defaultInstance⟩) ∧
      b.held = w.step.change s.backend.held ∧ (b.Readable ↔ s.backend.Readable)) ∨
    ∃ e b, w.apply s = (.error e, ⟨b, s.token, s.defaultInstance⟩) ∧
      b.held = s.backend.held ∧ b.document? = s.backend.document? ∧
      (s.backend.Durable → b.Durable) := by
  rw [apply_eq]
  rcases TokenStore.write_cases w.step.change w.step.then_ s with
    ⟨b, hw, hheld, hread, -⟩ | herror
  · exact .inl ⟨b, hw, hheld, hread⟩
  · exact .inr herror

/-- The store after a write that succeeded. -/
theorem of_apply_ok {w : StoreWrite} {s s' : TokenStore} (h : w.apply s = (.ok (), s')) :
    s'.token = w.step.then_ s.token ∧ s'.backend.held = w.step.change s.backend.held ∧
      s'.defaultInstance = s.defaultInstance ∧ (s'.backend.Readable ↔ s.backend.Readable) := by
  rcases w.apply_cases s with ⟨b, hw, hheld, hread⟩ | ⟨e, b, hw, -⟩
  · obtain ⟨-, rfl⟩ := Prod.mk.inj (hw.symm.trans h)
    exact ⟨rfl, hheld, rfl, hread⟩
  · cases (Prod.mk.inj (hw.symm.trans h)).1

/-- A store names the instance that it was set to. -/
theorem knownInstance_of_set {url : String} (hurl : url ≠ "") {s s' : TokenStore}
    (h : (setInstanceUrl url).apply s = (.ok (), s')) : s'.knownInstance = url := by
  obtain ⟨htoken, hheld, -, -⟩ := of_apply_ok h
  unfold TokenStore.knownInstance
  rw [htoken, hheld]
  cases s.token with
  | some t => rfl
  | none => exact TokenStore.instanceIn_setInstanceUrl hurl _ _

end StoreWrite

namespace TokenStore

/-- The keys of the token. -/
def tokenKeys : List String := [accessKey, issuedAtKey, instanceKey]

/-- A step leaves all keys alone that are not the token's. -/
theorem get?_change {key : String} (hkey : key ∉ tokenKeys) (step : StoreStep) (l : Named Json) :
    (step.change l).get? key = l.get? key := by
  cases step with
  | put t =>
    refine Named.get?_putAll_of_not_mem fun e he hne => hkey ?_
    simp only [entriesOf, List.mem_cons, List.not_mem_nil, or_false] at he
    rcases he with rfl | rfl | rfl <;> simp [hne, tokenKeys]
  | clear =>
    show (Named.eraseAll [accessKey, issuedAtKey] l).get? key = _
    rw [Named.get?_eraseAll, if_neg]
    simp only [tokenKeys, List.mem_cons, List.not_mem_nil, or_false, not_or] at hkey ⊢
    exact ⟨hkey.1, hkey.2.1⟩
  | setInstanceUrl url =>
    refine Named.get?_putAll_of_not_mem fun e he hne => hkey ?_
    rw [List.mem_singleton.1 he] at hne
    simp [hne, tokenKeys]
  | _ => rfl

/-! ### One step -/

/-- A store that is opened in the place of a coherent one is the same, if it can be opened. -/
theorem Coherent.replace_cases {s : TokenStore} (h : s.Coherent) :
    StoreStep.replace (openOn s.backend s.defaultInstance) s = (.ok (), s) ∨
      ∃ e, StoreStep.replace (openOn s.backend s.defaultInstance) s = (.error e, s) := by
  cases hopen : openOn s.backend s.defaultInstance with
  | ok s' =>
    left
    obtain ⟨-, rfl⟩ := openOn_eq_ok.1 hopen
    rw [StoreStep.replace, ← h.token]
  | error e => exact .inr ⟨e, rfl⟩

/-- A step of a coherent store comes out well, in the entries and in memory, or it fails and
changes neither. -/
theorem apply_cases {s : TokenStore} (h : s.Coherent) (step : StoreStep) :
    (∃ b, step.apply s = (.ok (), ⟨b, step.then_ s.token, s.defaultInstance⟩) ∧
      b.held = step.change s.backend.held ∧
      ((Rewritable s.backend.held → Rewritable (step.change s.backend.held)) → b.Durable)) ∨
    ∃ e b, step.apply s = (.error e, ⟨b, s.token, s.defaultInstance⟩) ∧
      b.held = s.backend.held ∧ b.document? = s.backend.document? ∧ b.Durable := by
  -- the three writes are one case, and the other steps leave the entries and the token alone
  by_cases hw : step.apply s = write (Backend.update step.change) step.then_ s
  · rw [hw]
    rcases write_cases step.change step.then_ s with
      ⟨b, hs, hheld, -, hdurable⟩ | ⟨e, b, hs, hheld, hdoc, hdurable⟩
    · exact .inl ⟨b, hs, hheld, fun hkeep => hdurable hkeep h.durable⟩
    · exact .inr ⟨e, b, hs, hheld, hdoc, hdurable h.durable⟩
  cases step with
  | put t => exact absurd rfl hw
  | clear => exact absurd rfl hw
  | setInstanceUrl url => exact absurd rfl hw
  | look now =>
    cases hstatus : s.status now with
    | ok status =>
      exact .inl ⟨s.backend, by rw [StoreStep.apply, hstatus]; rfl, rfl, fun _ => h.durable⟩
    | error e =>
      exact .inr ⟨e, s.backend, by rw [StoreStep.apply, hstatus]; rfl, rfl, rfl, h.durable⟩
  | openAgain =>
    rcases h.replace_cases with hsame | ⟨e, hsame⟩
    · exact .inl ⟨s.backend, hsame, rfl, fun _ => h.durable⟩
    · exact .inr ⟨e, s.backend, hsame, rfl, rfl, h.durable⟩
  | reopen =>
    rcases h.replace_cases with hsame | ⟨e, hsame⟩
    · exact .inl ⟨s.backend, by rw [StoreStep.apply, h.reopen_eq, hsame]; rfl, rfl,
        fun _ => h.durable⟩
    · exact .inr ⟨e, s.backend, by rw [StoreStep.apply, h.reopen_eq, hsame], rfl, rfl, h.durable⟩
  | trouble readsFail writesFail refuses =>
    exact .inl ⟨s.backend.troubled readsFail writesFail refuses, rfl,
      s.backend.held_troubled _ _ _, fun _ => Backend.durable_troubled h.durable _ _ _⟩

/-- Every step keeps a store coherent. -/
theorem coherent_apply {s : TokenStore} (h : s.Coherent) {step : StoreStep}
    (ha : step.Admissible) : (step.apply s).2.Coherent := by
  have hm := StoreStep.mirrors ha
  rcases apply_cases h step with ⟨b, hs, hheld, hdurable⟩ | ⟨e, b, hs, hheld, -, hdurable⟩
  · rw [hs]
    refine ⟨?_, hdurable (hm.rewritable _)⟩
    show step.then_ s.token = tokenIn b.held s.defaultInstance
    rw [hheld, hm.token, h.token]
  · rw [hs]
    refine ⟨?_, hdurable⟩
    show s.token = tokenIn b.held s.defaultInstance
    rw [hheld, h.token]

/-- A step that fails changes neither the token in memory nor what the backend holds. -/
theorem apply_error {s : TokenStore} (h : s.Coherent) {step : StoreStep} {e : StoreError}
    (he : (step.apply s).1 = .error e) :
    (step.apply s).2.token = s.token ∧ (step.apply s).2.backend.held = s.backend.held ∧
      (step.apply s).2.document? = s.document? := by
  rcases apply_cases h step with ⟨b, hs, -⟩ | ⟨e', b, hs, hheld, hdoc, -⟩
  · rw [hs] at he
    cases he
  · rw [hs]
    exact ⟨rfl, hheld, hdoc⟩

/-- A step leaves the default instance alone, and all keys that are not the token's. -/
theorem apply_frame {s : TokenStore} (h : s.Coherent) (step : StoreStep) :
    (step.apply s).2.defaultInstance = s.defaultInstance ∧
      ∀ key ∉ tokenKeys, (step.apply s).2.backend.held.get? key = s.backend.held.get? key := by
  rcases apply_cases h step with ⟨b, hs, hheld, -⟩ | ⟨e, b, hs, hheld, -⟩
  · rw [hs]
    exact ⟨rfl, fun key hkey => by rw [hheld, get?_change hkey]⟩
  · rw [hs]
    exact ⟨rfl, fun key _ => by rw [hheld]⟩

/-! ### Runs -/

/-- The store after a run of steps, each of which may have failed. -/
def run (steps : List StoreStep) (s : TokenStore) : TokenStore :=
  steps.foldl (fun s step => (step.apply s).2) s

/-- A run keeps a store coherent, its default instance, and all keys that are not the token's. -/
theorem run_coherent {steps : List StoreStep} {s : TokenStore} (h : s.Coherent)
    (ha : ∀ step ∈ steps, step.Admissible) :
    (run steps s).Coherent ∧ (run steps s).defaultInstance = s.defaultInstance ∧
      ∀ key ∉ tokenKeys, (run steps s).backend.held.get? key = s.backend.held.get? key := by
  induction steps generalizing s with
  | nil => exact ⟨h, rfl, fun _ _ => rfl⟩
  | cons step steps ih =>
    obtain ⟨hstep, hsteps⟩ := List.forall_mem_cons.1 ha
    obtain ⟨hdefault, hkeys⟩ := apply_frame h step
    obtain ⟨hrun, hdefault', hkeys'⟩ := ih (coherent_apply h hstep) hsteps
    exact ⟨hrun, hdefault'.trans hdefault,
      fun key hkey => (hkeys' key hkey).trans (hkeys key hkey)⟩

/-- A token that was cleared is gone, and its instance stays known. -/
theorem Coherent.clear_eq_ok {s s' : TokenStore} (h : s.Coherent)
    (hclear : s.clear = (.ok (), s')) :
    s'.token = none ∧ (s.backend.Readable → s'.instanceUrl = s.instanceUrl) := by
  have hs' : s'.Coherent := by
    have hkept : (StoreStep.clear.apply s).2.Coherent := coherent_apply h trivial
    rwa [show StoreStep.apply .clear s = _ from hclear] at hkept
  rcases write_cases (Named.eraseAll [accessKey, issuedAtKey]) (fun _ => none) s with
    ⟨b, hw, hheld, hread, -⟩ | ⟨e, b, hw, -⟩
  · obtain ⟨-, rfl⟩ := Prod.mk.inj (hclear.symm.trans hw)
    refine ⟨rfl, fun hreadable => ?_⟩
    rw [h.instanceUrl_eq hreadable, hs'.instanceUrl_eq (hread.2 hreadable)]
    show Except.ok (instanceIn b.held s.defaultInstance) = _
    rw [hheld, instanceIn_clear]
  · cases (Prod.mk.inj (hclear.symm.trans hw)).1

/-- Whatever the backend holds at first and whatever fails on the way, after every run of steps:
a store that is opened on the backend, as it is or from its state file, is the live store; a step
that fails changes neither the token nor what the backend holds; a token that is cleared is gone
while its instance stays known; and what is kept under other keys is what was there at first. -/
theorem durably_coherent {b : Backend} {d : String} {s₀ : TokenStore} (hb : b.Opened)
    (h₀ : openOn b d = .ok s₀) {steps : List StoreStep}
    (hsteps : ∀ step ∈ steps, step.Admissible) :
    let s := run steps s₀
    (s.backend.Readable → openOn s.backend d = .ok s ∧ s.reopen = .ok s ∧
      ∃ url, s.instanceUrl = .ok url) ∧
    (∀ (step : StoreStep) (e : StoreError), (step.apply s).1 = .error e →
      (step.apply s).2.token = s.token ∧
      (∀ key, (step.apply s).2.backend.held.get? key = s.backend.held.get? key) ∧
      (step.apply s).2.document? = s.document?) ∧
    (∀ s', s.clear = (.ok (), s') → s'.token = none ∧
      (s.backend.Readable → ∃ url, s.instanceUrl = .ok url ∧ s'.instanceUrl = .ok url)) ∧
    ∀ key ∉ tokenKeys, s.backend.held.get? key = b.held.get? key := by
  intro s
  obtain ⟨hs, hdefault, hkeys⟩ := run_coherent (coherent_openOn hb h₀) hsteps
  obtain ⟨-, rfl⟩ := openOn_eq_ok.1 h₀
  refine ⟨fun hread => ?_, fun step e he => ?_, fun s' hclear => ?_, hkeys⟩
  · have hopen := hs.openOn_eq hread
    refine ⟨?_, hs.reopen_eq.trans hopen, _, hs.instanceUrl_eq hread⟩
    rwa [hdefault] at hopen
  · obtain ⟨htoken, hheld, hdoc⟩ := apply_error hs he
    exact ⟨htoken, fun key => by rw [hheld], hdoc⟩
  · obtain ⟨htoken, hurl⟩ := hs.clear_eq_ok hclear
    exact ⟨htoken, fun hread => ⟨_, hs.instanceUrl_eq hread,
      (hurl hread).trans (hs.instanceUrl_eq hread)⟩⟩

/-- Entries with a token that has neither a time nor an instance, and with more. -/
def looseEntries : Named Json :=
  [(accessKey, .str "abc"), (issuedAtKey, .str "soon"), ("zoom", .arr [.int 2])]

theorem rewritable_looseEntries : Rewritable looseEntries := by
  refine rewritable_iff.2 ⟨by unfold Named.Sorted; decide, ?_⟩
  simp only [looseEntries, List.forall_mem_cons]
  refine ⟨rewritableValue_str _, rewritableValue_str _, ⟨rfl, .arr ?_, .arr ?_⟩, ?_⟩
  · exact fun v hv => List.mem_singleton.1 hv ▸ .int (by decide)
  · exact fun v hv => List.mem_singleton.1 hv ▸ .int 2
  · exact fun _ h => absurd h List.not_mem_nil

/-- The state file is not replaced the first time, and the second time it is. -/
theorem durably_coherent_refusedOnce :
    let b : Backend := .file ⟨"state.json", looseEntries,
      ⟨some (StateFile.write looseEntries), none⟩, fun _ => none⟩
    let s₀ : TokenStore := ⟨b, some ⟨"abc", 0, commonInstance⟩, commonInstance⟩
    let steps : List StoreStep := [
      .trouble false false fun i => if i = 3 then some .permissionDenied else none,
      .setInstanceUrl "https://eu1.salesforce.com",
      .trouble false false fun _ => none,
      .put ⟨"def", 1700000000000, "https://eu1.salesforce.com"⟩, .clear]
    b.Opened ∧ openOn b commonInstance = .ok s₀ ∧ (∀ step ∈ steps, step.Admissible) ∧
      (run steps s₀).reopen = .ok (run steps s₀) := by
  intro b s₀ steps
  have hb : b.Opened := by
    have hopen : Backend.openFile "state.json" ⟨some (StateFile.write looseEntries), none⟩
        (fun _ => none) = .ok b := by
      simp only [Backend.openFile, read_write rewritable_looseEntries, b]
    exact .file hopen rewritable_looseEntries.floatFree
  have h₀ : openOn b commonInstance = .ok s₀ := openOn_eq_ok.2 ⟨trivial, rfl⟩
  have hsteps : ∀ step ∈ steps, step.Admissible := by
    simp [steps, StoreStep.Admissible]
  exact ⟨hb, h₀, hsteps, ((durably_coherent hb h₀ hsteps).1 trivial).2.1⟩

end TokenStore

end Soql
