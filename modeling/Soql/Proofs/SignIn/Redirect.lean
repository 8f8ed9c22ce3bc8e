/-
# What a redirect says

What an answer says is decided by the first values of five names, and in a fixed order: an error
goes before a wrong text, and that before a missing token. So no token is taken from an answer that
tells of an error or brings back another text first, and it does not matter what comes under other
names, or again under one of these, and in which order the names come.

Key definitions: `SignIn.Grant.names`.
Key theorems: `SignIn.Grant.ofPairs_cases`, `SignIn.Grant.ofPairs_eq_ok_iff`,
`SignIn.Grant.ofPairs_eq_of_alike`, `SignIn.Grant.decided_by_first`.
-/
import Soql.Proofs.Named.First
import Soql.SignIn.Redirect

namespace Soql.SignIn.Grant

open Named

/-- The names that are asked for. -/
def names : List String := ["error", "error_description", "state", "access_token", "instance_url"]

variable {nonce name v : String} {ps ps' : Named String}

theorem filled?_eq_some_iff : filled? name ps = some v ↔ First ps name v ∧ v ≠ "" := by
  rw [filled?, Option.filter_eq_some_iff, get?_eq_some_iff]
  simp

theorem filled?_eq_none_iff : filled? name ps = none ↔ ∀ v, First ps name v → v = "" := by
  rw [Option.eq_none_iff_forall_ne_some]
  refine forall_congr' fun v => ?_
  rw [Ne, filled?_eq_some_iff]
  simp

/-- Another text is brought back than the one that was sent along. -/
theorem any_state_iff :
    (get? "state" ps).any (· != nonce) = true ↔ ∃ s, First ps "state" s ∧ s ≠ nonce := by
  simp only [← get?_eq_some_iff]
  cases get? "state" ps <;> simp

/-! ### The outcomes -/

theorem ofPairs_of_first {e : String} (h : First ps "error" e) :
    ofPairs nonce ps = .error (.denied e (get? "error_description" ps)) := by
  rw [ofPairs, get?_eq_some_iff.2 h]

theorem ofPairs_of_otherState {s : String} (h : Absent ps "error") (hs : First ps "state" s)
    (hne : s ≠ nonce) : ofPairs nonce ps = .error .wrongNonce := by
  rw [ofPairs, get?_eq_none_iff.2 h]
  exact if_pos (any_state_iff.2 ⟨s, hs, hne⟩)

/-- Without an error and with the text that was sent along, or none, the token counts. -/
theorem ofPairs_of_state (h : Absent ps "error") (hs : ∀ s, First ps "state" s → s = nonce) :
    ofPairs nonce ps =
      match filled? "access_token" ps with
      | none => .error .missingToken
      | some token => .ok ⟨token, (filled? "instance_url" ps).map withoutTrailingSlashes⟩ := by
  rw [ofPairs, get?_eq_none_iff.2 h]
  refine if_neg fun hany => ?_
  obtain ⟨s, hfirst, hne⟩ := any_state_iff.1 hany
  exact hne (hs s hfirst)

/-- One of the four holds, and what it says is what the pairs come to. -/
theorem ofPairs_cases (nonce : String) (ps : Named String) :
    (∃ e, First ps "error" e ∧
      ofPairs nonce ps = .error (.denied e (get? "error_description" ps))) ∨
    (Absent ps "error" ∧ (∃ s, First ps "state" s ∧ s ≠ nonce) ∧
      ofPairs nonce ps = .error .wrongNonce) ∨
    (Absent ps "error" ∧ (∀ s, First ps "state" s → s = nonce) ∧
      filled? "access_token" ps = none ∧ ofPairs nonce ps = .error .missingToken) ∨
    ∃ token, Absent ps "error" ∧ (∀ s, First ps "state" s → s = nonce) ∧
      filled? "access_token" ps = some token ∧
      ofPairs nonce ps = .ok ⟨token, (filled? "instance_url" ps).map withoutTrailingSlashes⟩ := by
  rcases absent_or_first ps "error" with habsent | ⟨e, he⟩
  · by_cases hother : ∃ s, First ps "state" s ∧ s ≠ nonce
    · obtain ⟨s, hs, hne⟩ := hother
      exact .inr (.inl ⟨habsent, ⟨s, hs, hne⟩, ofPairs_of_otherState habsent hs hne⟩)
    · have hs : ∀ s, First ps "state" s → s = nonce := fun s hs =>
        Classical.not_not.1 fun hne => hother ⟨s, hs, hne⟩
      have hpairs := ofPairs_of_state habsent hs
      right
      right
      cases htoken : filled? "access_token" ps with
      | none => exact .inl ⟨habsent, hs, rfl, by rw [hpairs, htoken]⟩
      | some token => exact .inr ⟨token, habsent, hs, rfl, by rw [hpairs, htoken]⟩
  · exact .inl ⟨e, he, ofPairs_of_first he⟩

theorem ofPairs_eq_denied_iff {e : String} {d : Option String} :
    ofPairs nonce ps = .error (.denied e d) ↔
      First ps "error" e ∧ ∀ v, d = some v ↔ First ps "error_description" v := by
  constructor
  · intro h
    rcases ofPairs_cases nonce ps with
      ⟨e', he, heq⟩ | ⟨-, -, heq⟩ | ⟨-, -, -, heq⟩ | ⟨t, -, -, -, heq⟩ <;> cases heq.symm.trans h
    exact ⟨he, fun v => get?_eq_some_iff⟩
  · rintro ⟨he, hd⟩
    have hsame : d = get? "error_description" ps :=
      Option.ext fun v => (hd v).trans get?_eq_some_iff.symm
    rw [ofPairs_of_first he, hsame]

theorem ofPairs_eq_wrongNonce_iff : ofPairs nonce ps = .error .wrongNonce ↔
    Absent ps "error" ∧ ∃ s, First ps "state" s ∧ s ≠ nonce := by
  constructor
  · intro h
    rcases ofPairs_cases nonce ps with
      ⟨e, -, heq⟩ | ⟨habsent, hother, heq⟩ | ⟨-, -, -, heq⟩ | ⟨t, -, -, -, heq⟩ <;>
      cases heq.symm.trans h
    exact ⟨habsent, hother⟩
  · rintro ⟨habsent, s, hs, hne⟩
    exact ofPairs_of_otherState habsent hs hne

theorem ofPairs_eq_missingToken_iff : ofPairs nonce ps = .error .missingToken ↔
    Absent ps "error" ∧ (∀ s, First ps "state" s → s = nonce) ∧
      ∀ t, First ps "access_token" t → t = "" := by
  rw [← filled?_eq_none_iff]
  constructor
  · intro h
    rcases ofPairs_cases nonce ps with
      ⟨e, -, heq⟩ | ⟨-, -, heq⟩ | ⟨habsent, hs, hnone, heq⟩ | ⟨t, -, -, -, heq⟩ <;>
      cases heq.symm.trans h
    exact ⟨habsent, hs, hnone⟩
  · rintro ⟨habsent, hs, hnone⟩
    rw [ofPairs_of_state habsent hs, hnone]

theorem ofPairs_eq_ok_iff {g : Grant} : ofPairs nonce ps = .ok g ↔
    Absent ps "error" ∧ (∀ s, First ps "state" s → s = nonce) ∧
      First ps "access_token" g.token ∧ g.token ≠ "" ∧
      ∀ v, g.instanceUrl = some v ↔
        ∃ u, First ps "instance_url" u ∧ u ≠ "" ∧ v = withoutTrailingSlashes u := by
  have hinstance : (∀ v, g.instanceUrl = some v ↔
        ∃ u, First ps "instance_url" u ∧ u ≠ "" ∧ v = withoutTrailingSlashes u) ↔
      g.instanceUrl = (filled? "instance_url" ps).map withoutTrailingSlashes := by
    rw [Option.ext_iff]
    refine forall_congr' fun v => ?_
    simp only [Option.map_eq_some_iff, filled?_eq_some_iff, and_assoc, eq_comm (a := v)]
  rw [hinstance, ← and_assoc (a := First ps _ _), ← filled?_eq_some_iff]
  constructor
  · intro h
    rcases ofPairs_cases nonce ps with
      ⟨e, -, heq⟩ | ⟨-, -, heq⟩ | ⟨-, -, -, heq⟩ | ⟨t, habsent, hs, htoken, heq⟩ <;>
      cases heq.symm.trans h
    exact ⟨habsent, hs, htoken, rfl⟩
  · rintro ⟨habsent, hs, htoken, hurl⟩
    rw [ofPairs_of_state habsent hs, htoken, ← hurl]

/-! ### Other answers -/

/-- Answers that say the same of the five names come to the same. -/
theorem ofPairs_eq_of_alike (h : Alike names ps ps') : ofPairs nonce ps = ofPairs nonce ps' := by
  have hget := h.get?_eq
  simp only [names, List.forall_mem_cons] at hget
  obtain ⟨herror, hdescription, hstate, htoken, hinstance, -⟩ := hget
  rw [ofPairs, ofPairs, filled?, filled?, herror, hdescription, hstate, htoken]
  rw [filled?, filled?, hinstance]

theorem ofRedirect_eq {url : String} {fragment : List Char}
    (h : Url.readFragment (Text.trim url.toList) = .ok fragment) :
    ofRedirect nonce url = ofPairs nonce (FormData.parse fragment) := by
  rw [ofRedirect, h]

/-- Of a redirect with a fragment, the first values decide: an error is one; else another text than
the one that was sent along is; else it takes a token, with the instance that is named, if one is.
Another redirect that says the same of the five names comes to the same. -/
theorem decided_by_first {nonce url : String} {fragment : List Char}
    (h : Url.readFragment (Text.trim url.toList) = .ok fragment) :
    let ps := FormData.parse fragment
    let r := ofRedirect nonce url
    (∀ e d, r = .error (.denied e d) ↔
      First ps "error" e ∧ ∀ v, d = some v ↔ First ps "error_description" v) ∧
    (r = .error .wrongNonce ↔ Absent ps "error" ∧ ∃ s, First ps "state" s ∧ s ≠ nonce) ∧
    (r = .error .missingToken ↔ Absent ps "error" ∧ (∀ s, First ps "state" s → s = nonce) ∧
      ∀ t, First ps "access_token" t → t = "") ∧
    (∀ g, r = .ok g ↔ Absent ps "error" ∧ (∀ s, First ps "state" s → s = nonce) ∧
      First ps "access_token" g.token ∧ g.token ≠ "" ∧
      ∀ v, g.instanceUrl = some v ↔
        ∃ u, First ps "instance_url" u ∧ u ≠ "" ∧ v = withoutTrailingSlashes u) ∧
    ∀ url' fragment', Url.readFragment (Text.trim url'.toList) = .ok fragment' →
      Alike names ps (FormData.parse fragment') → ofRedirect nonce url' = r := by
  intro ps r
  have hr : r = ofPairs nonce ps := ofRedirect_eq h
  rw [hr]
  refine ⟨fun _ _ => ofPairs_eq_denied_iff, ofPairs_eq_wrongNonce_iff, ofPairs_eq_missingToken_iff,
    fun _ => ofPairs_eq_ok_iff, fun url' fragment' h' halike => ?_⟩
  rw [ofRedirect_eq h', ofPairs_eq_of_alike halike]

/-- Names that change places, and a second token, make no difference; another text does. -/
theorem decided_by_first_secondToken :
    ofRedirect "n" "app:/#state=n&access_token=t" = .ok ⟨"t", none⟩ ∧
      ofRedirect "n" "app:/#access_token=t&state=n&access_token=w" = .ok ⟨"t", none⟩ ∧
      ofRedirect "m" "app:/#state=n&access_token=t" = .error .wrongNonce := by
  have h : Url.readFragment (Text.trim "app:/#state=n&access_token=t".toList) =
    .ok "state=n&access_token=t".toList := rfl
  have h' : Url.readFragment (Text.trim "app:/#access_token=t&state=n&access_token=w".toList) =
    .ok "access_token=t&state=n&access_token=w".toList := rfl
  have hps : FormData.parse "state=n&access_token=t".toList =
    [("state", "n"), ("access_token", "t")] := rfl
  have hps' : FormData.parse "access_token=t&state=n&access_token=w".toList =
    [("access_token", "t"), ("state", "n"), ("access_token", "w")] := rfl
  obtain ⟨-, -, -, hok, halike⟩ := @decided_by_first "n" _ _ h
  obtain ⟨-, hother, -⟩ := @decided_by_first "m" _ _ h
  rw [hps] at hok halike hother
  have hstate : First [("state", "n"), ("access_token", "t")] "state" "n" :=
    ⟨[], _, rfl, by simp [Absent]⟩
  have htoken : First [("state", "n"), ("access_token", "t")] "access_token" "t" :=
    ⟨[("state", "n")], [], rfl, by simp [Absent]⟩
  have herror : Absent [("state", "n"), ("access_token", "t")] "error" := by simp [Absent]
  have hfirst : ofRedirect "n" "app:/#state=n&access_token=t" = .ok ⟨"t", none⟩ := by
    refine (hok _).2 ⟨herror, fun s hs => hs.unique hstate, htoken, by decide, fun v => ?_⟩
    have hinstance : Absent [("state", "n"), ("access_token", "t")] "instance_url" := by
      simp [Absent]
    simpa using fun u hu => absurd hinstance (First.not_absent hu)
  refine ⟨hfirst, (halike _ _ h' ?_).trans hfirst, hother.2 ⟨herror, "n", hstate, by decide⟩⟩
  rw [hps']
  exact .trans (.swap (a := []) (b := []) (by decide))
    (.repeated (a := [_, _]) (b := []) ⟨_, List.mem_cons_self, rfl⟩)

end Soql.SignIn.Grant
