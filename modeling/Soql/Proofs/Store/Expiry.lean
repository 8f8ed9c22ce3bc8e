/-
# When a token is stale

The age of a token is a difference of two times in 64 bits. As long as the milliseconds that went by
fit into them, the age is exact, and the token is stale exactly when it is older than its lifetime
(`Token.exists_age`, `Token.staleness_eq`). A state file can hold a time so long ago that they do
not fit; then the oldest tokens of all are not found to be stale, but whoever asks for their age
panics. No token that was issued in 1970 or later is among them (`Token.not_overflows`).

Key definitions: `Token.elapsed`, `Token.Expired`, `Token.Overflows`.
Key theorems: `Token.exists_age`, `Token.staleness_eq`, `TokenStore.checkAge_of_token`,
`TokenStore.exists_openOn_of_read`, `TokenStore.expiry_of_held`, `TokenStore.expired_panics`.
-/
import Mathlib.Algebra.Group.Int.Defs
import Soql.Proofs.Store.Coherence

namespace Soql

namespace Token

variable {t : Token} {now now' : Int64}

/-- The milliseconds that went by since the token was issued, however many they are. -/
def elapsed (t : Token) (now : Int64) : Int := now.toInt - t.issuedAt.toInt

/-- More time went by than the lifetime of a token. -/
def Expired (t : Token) (now : Int64) : Prop := lifetime.toInt < t.elapsed now

/-- More time went by than 64 bits with a sign hold. -/
def Overflows (t : Token) (now : Int64) : Prop := 2 ^ 63 ≤ t.elapsed now

instance (t : Token) (now : Int64) : Decidable (t.Expired now) :=
  inferInstanceAs (Decidable (_ < _))

instance (t : Token) (now : Int64) : Decidable (t.Overflows now) :=
  inferInstanceAs (Decidable (_ ≤ _))

theorem toInt_lifetime : lifetime.toInt = 7200000 := rfl

theorem Overflows.expired (h : t.Overflows now) : t.Expired now := by
  unfold Overflows at h
  rw [Expired, toInt_lifetime]
  omega

theorem elapsed_mono (h : now ≤ now') : t.elapsed now ≤ t.elapsed now' := by
  have hle := Int64.le_iff_toInt_le.1 h
  unfold elapsed
  omega

theorem Expired.mono (h : t.Expired now) (hle : now ≤ now') : t.Expired now' :=
  Int.lt_of_lt_of_le h (elapsed_mono hle)

theorem Overflows.mono (h : t.Overflows now) (hle : now ≤ now') : t.Overflows now' :=
  Int.le_trans h (elapsed_mono hle)

/-- What was issued in 1970 or later is never too long ago. -/
theorem not_overflows (h : 0 ≤ t.issuedAt) (now : Int64) : ¬t.Overflows now := by
  have hissued : 0 ≤ t.issuedAt.toInt := Int64.le_iff_toInt_le.1 h
  have hnow := now.toInt_lt
  unfold Overflows elapsed
  omega

/-- From 1970 on, a difference that does not fit is one that is too large. -/
theorem ssubOverflow_iff (hnow : 0 ≤ now) :
    now.toBitVec.ssubOverflow t.issuedAt.toBitVec = true ↔ t.Overflows now := by
  have hzero : 0 ≤ now.toInt := Int64.le_iff_toInt_le.1 hnow
  have hissued := t.issuedAt.toInt_lt
  rw [BitVec.ssubOverflow, Bool.or_eq_true, decide_eq_true_iff, decide_eq_true_iff,
    Int64.toInt_toBitVec, Int64.toInt_toBitVec, Overflows, elapsed]
  omega

theorem age_of_overflows (hnow : 0 ≤ now) (h : t.Overflows now) : t.age now = .error .overflow :=
  if_pos ((ssubOverflow_iff hnow).2 h)

/-- The age is the time that went by, when 64 bits hold that. -/
theorem exists_age (hnow : 0 ≤ now) (h : ¬t.Overflows now) :
    ∃ age, t.age now = .ok age ∧ age.toInt = t.elapsed now := by
  have hfits : ¬now.toBitVec.ssubOverflow t.issuedAt.toBitVec = true :=
    mt (ssubOverflow_iff hnow).1 h
  exact ⟨now - t.issuedAt, if_neg hfits, BitVec.toInt_sub_of_not_ssubOverflow hfits⟩

/-- What is found about staleness is right, and nothing is found when the time overflows. -/
theorem staleness_eq (hnow : 0 ≤ now) : t.staleness now =
    if t.Overflows now then .error .overflow else .ok (decide (t.Expired now)) := by
  split
  · rename_i hover
    rw [staleness, age_of_overflows hnow hover]
    rfl
  · rename_i hnot
    obtain ⟨age, hage, helapsed⟩ := exists_age hnow hnot
    have hstale : lifetime < age ↔ t.Expired now := by
      rw [Int64.lt_iff_toInt_lt, helapsed, Expired]
    rw [staleness, hage, ok_bind, pure_eq_ok, decide_eq_decide.2 hstale]

/-- What is so old that nobody can tell how old it is counts as stale. -/
theorem isStale_eq (hnow : 0 ≤ now) : t.isStale now = decide (t.Expired now) := by
  have hstale := staleness_eq (t := t) hnow
  by_cases hover : t.Overflows now
  · rw [if_pos hover] at hstale
    simp only [isStale, hstale, decide_eq_true hover.expired]
  · rw [if_neg hover] at hstale
    simp only [isStale, hstale]

/-- A token that was found to be stale is found so later, for as long as the time does not
overflow. -/
theorem staleness_later_iff (hnow : 0 ≤ now) (hle : now ≤ now')
    (h : t.staleness now = .ok true) : t.staleness now' = .ok true ↔ ¬t.Overflows now' := by
  have hexpired : t.Expired now := by
    rw [staleness_eq hnow] at h
    split at h
    · cases h
    · exact of_decide_eq_true (Except.ok.inj h)
  rw [staleness_eq (Int64.le_trans hnow hle), decide_eq_true (hexpired.mono hle)]
  split
  · rename_i hover
    exact ⟨fun h => (nomatch h), fun hnot => absurd hover hnot⟩
  · rename_i hnot
    exact iff_of_true rfl hnot

end Token

namespace TokenStore

theorem int64?_eq_some_iff {v : Json} {n : Int64} : v.int64? = some n ↔ v = .int n.toInt := by
  constructor
  · intro h
    cases v with
    | int m =>
      rw [Json.int64?] at h
      split at h
      · rename_i hm
        obtain rfl := Option.some.inj h
        rw [Int64.toInt_minValue, Int64.toInt_maxValue] at hm
        rw [Int64.toInt_ofInt_of_le hm.1 (by omega)]
      · cases h
    | _ => cases h
  · rintro rfl
    exact int64?_toInt n

/-- The time that entries tell is the whole number of 64 bits that they hold, or the beginning of
time. -/
theorem issuedAt_of_tokenIn {l : Named Json} {d : String} {t : Token}
    (h : tokenIn l d = some t) :
    (∀ n : Int64, l.get? issuedAtKey = some (.int n.toInt) → t.issuedAt = n) ∧
      ((∀ n : Int64, l.get? issuedAtKey ≠ some (.int n.toInt)) → t.issuedAt = 0) := by
  have hissued : t.issuedAt = ((l.get? issuedAtKey).bind Json.int64?).getD 0 := by
    unfold tokenIn at h
    split at h
    · split at h
      · cases h
      · obtain rfl := Option.some.inj h
        rfl
    · cases h
  rw [hissued]
  refine ⟨fun n hn => by rw [hn, Option.bind_some, int64?_toInt, Option.getD_some], fun hnone => ?_⟩
  have hread : (l.get? issuedAtKey).bind Json.int64? = none := by
    rw [Option.eq_none_iff_forall_ne_some]
    intro n hn
    obtain ⟨v, hv, hint⟩ := Option.bind_eq_some_iff.1 hn
    exact hnone n (hv.trans (congrArg some (int64?_eq_some_iff.1 hint)))
  rw [hread, Option.getD_none]

theorem fresh?_of_token {s : TokenStore} {t : Token} {now : Int64} (h : s.token = some t)
    (hnow : 0 ≤ now) : s.fresh? now = if t.Expired now then none else some t := by
  rw [fresh?, h, Option.filter_some, Token.isStale_eq hnow]
  by_cases hexpired : t.Expired now
  · rw [decide_eq_true hexpired, if_pos hexpired]
    rfl
  · rw [decide_eq_false hexpired, if_neg hexpired]
    rfl

theorem checkAge_eq_discard {s : TokenStore} {t : Token} (h : s.token = some t) (now : Int64) :
    s.checkAge now = discard (t.age now) := by
  rw [checkAge, h]

theorem checkAge_of_token {s : TokenStore} {t : Token} {now : Int64} (h : s.token = some t)
    (hnow : 0 ≤ now) :
    s.checkAge now = if t.Overflows now then .error .overflow else .ok () := by
  rw [checkAge_eq_discard h]
  split
  · rename_i hover
    rw [Token.age_of_overflows hnow hover]
    rfl
  · rename_i hnot
    obtain ⟨age, hage, -⟩ := Token.exists_age hnow hnot
    rw [hage]
    rfl

theorem status_of_token {s : TokenStore} {t : Token} {now age : Int64} (h : s.token = some t)
    (hnow : 0 ≤ now) (hage : t.age now = .ok age) :
    s.status now =
      .ok ⟨true, decide (t.Expired now), some t.issuedAt, some age, t.instanceUrl⟩ := by
  rw [status, instanceUrl, h, ok_bind, pure_eq_ok, statusOf, Token.isStale_eq hnow, hage]
  rfl

/-- A store on a state file has the token that the entries in the file tell. -/
theorem exists_openOn_of_read {disk : Disk} {text : String} {l : Named Json} {d : String}
    {t : Token} (hdisk : disk.state = some text) (hread : StateFile.read text = .ok l)
    (htoken : tokenIn l d = some t) (path : String) (refuses : Nat → Option SystemError) :
    ∃ b s, Backend.openFile path disk refuses = .ok b ∧ openOn b d = .ok s ∧ s.token = some t := by
  refine ⟨.file ⟨path, l, disk, refuses⟩, _, ?_, openOn_eq_ok.2 ⟨trivial, rfl⟩, htoken⟩
  simp only [Backend.openFile, hdisk, hread]

/-- Whatever the entries under the key of the token's time hold, a token that they tell is loaded
with the 64 bits of that, or with the beginning of time. At every time from 1970 on, its age is the
time that went by, it is stale when that is more than its lifetime, it is given out when it is not
stale, and the status says so, unless the time that went by overflows 64 bits. Then it is older than
its lifetime, but whoever asks for its age, for whether it is stale, for a token that is not stale
or for the status panics. What is stale stays so until then, and the panics have no end. No token
that was issued in 1970 or later comes to that. -/
theorem expiry_of_held {b : Backend} (hread : b.Readable) {access : String}
    (haccess : b.held.get? accessKey = some (.str access)) (hne : access ≠ "") (d : String) :
    ∃ s t, openOn b d = .ok s ∧ s.token = some t ∧ t.access = access ∧
      (∀ n : Int64, b.held.get? issuedAtKey = some (.int n.toInt) → t.issuedAt = n) ∧
      ((∀ n : Int64, b.held.get? issuedAtKey ≠ some (.int n.toInt)) → t.issuedAt = 0) ∧
      ∀ now, 0 ≤ now →
        (¬t.Overflows now → ∃ age, t.age now = .ok age ∧ age.toInt = t.elapsed now ∧
          t.staleness now = .ok (decide (t.Expired now)) ∧
          s.getValid now = .ok (if t.Expired now then none else some t) ∧
          s.tellStatus now =
            .ok (.ok ⟨true, decide (t.Expired now), some t.issuedAt, some age, t.instanceUrl⟩)) ∧
        (t.Overflows now → t.Expired now ∧ t.age now = .error .overflow ∧
          t.staleness now = .error .overflow ∧ s.getValid now = .error .overflow ∧
          s.tellStatus now = .error .overflow) ∧
        (∀ now', now ≤ now' →
          (t.staleness now = .ok true → (t.staleness now' = .ok true ↔ ¬t.Overflows now')) ∧
          (t.Overflows now → t.Overflows now')) ∧
        (0 ≤ t.issuedAt → ¬t.Overflows now) := by
  obtain ⟨t, ht, htoken⟩ : ∃ t : Token, t.access = access ∧ tokenIn b.held d = some t := by
    simp [tokenIn, haccess, hne]
  obtain ⟨hissued, hepoch⟩ := issuedAt_of_tokenIn htoken
  let s : TokenStore := ⟨b, tokenIn b.held d, d⟩
  refine ⟨s, t, openOn_eq_ok.2 ⟨hread, rfl⟩, htoken, ht, hissued, hepoch, fun now hnow => ?_⟩
  have hcheck : s.checkAge now = _ := checkAge_of_token htoken hnow
  have hstale := Token.staleness_eq (t := t) hnow
  refine ⟨fun hnot => ?_, fun hover => ?_, fun now' hle =>
    ⟨Token.staleness_later_iff hnow hle, fun h => h.mono hle⟩, fun h => Token.not_overflows h now⟩
  · obtain ⟨age, hage, helapsed⟩ := Token.exists_age hnow hnot
    rw [if_neg hnot] at hcheck hstale
    refine ⟨age, hage, helapsed, hstale, ?_, ?_⟩
    · rw [getValid, hcheck, fresh?_of_token htoken hnow]
      rfl
    · rw [tellStatus, hcheck, status_of_token htoken hnow hage]
      rfl
  · rw [if_pos hover] at hcheck hstale
    refine ⟨hover.expired, Token.age_of_overflows hnow hover, hstale, ?_, ?_⟩
    · rw [getValid, hcheck]
      rfl
    · rw [tellStatus, hcheck]
      rfl

/-- A token is still given out when it is two hours old, and a millisecond later no more. -/
theorem expiry_of_held_twoHours :
    let t : Token := ⟨"abc", 1700000000000, commonInstance⟩
    let b : Backend := .ofEntries [(accessKey, .str "abc"), (issuedAtKey, .int 1700000000000)]
    ∃ s, openOn b commonInstance = .ok s ∧ s.token = some t ∧
      s.getValid 1700007200000 = .ok (some t) ∧ s.getValid 1700007200001 = .ok none := by
  intro t b
  obtain ⟨s, t', hopen, htoken, -, -, -, hnow⟩ :=
    expiry_of_held (b := b) rfl rfl (by decide) commonInstance
  obtain ⟨-, hs⟩ := openOn_eq_ok.1 hopen
  have ht : s.token = some t := by
    rw [hs]
    rfl
  obtain rfl := Option.some.inj (htoken.symm.trans ht)
  have hvalid (now : Int64) (h : 0 ≤ now) :
      s.getValid now = .ok (if t.Expired now then none else some t) := by
    obtain ⟨hexact, -, -, hfits⟩ := hnow now h
    obtain ⟨-, -, -, -, hvalid, -⟩ := hexact (hfits (by decide))
    exact hvalid
  exact ⟨s, hopen, ht, by rw [hvalid _ (by decide), if_neg (by decide)],
    by rw [hvalid _ (by decide), if_pos (by decide)]⟩

/-- A token that was issued too long ago is stale in 1970; whoever asks for it later panics. -/
theorem expired_panics :
    let t : Token := ⟨"t", -9223372036854775807, commonInstance⟩
    let text := StateFile.write (Named.putAll (entriesOf t) [])
    ∃ b s, Backend.openFile "state.json" ⟨some text, none⟩ (fun _ => none) = .ok b ∧
      openOn b commonInstance = .ok s ∧ s.token = some t ∧ t.staleness 0 = .ok true ∧
      s.getValid 0 = .ok none ∧ t.elapsed 1700000000000 = 9223373736854775807 ∧
      t.age 1700000000000 = .error .overflow ∧ t.staleness 1700000000000 = .error .overflow ∧
      s.getValid 1700000000000 = .error .overflow ∧
      s.tellStatus 1700000000000 = .error .overflow := by
  intro t text
  have hread : StateFile.read text = .ok (Named.putAll (entriesOf t) []) :=
    StateFile.read_write (rewritable_putAll_entriesOf t
      ⟨StateFile.storable_nil, fun e he => absurd he List.not_mem_nil⟩)
  have htoken : tokenIn (Named.putAll (entriesOf t) []) commonInstance = some t :=
    tokenIn_putAll_entriesOf (by decide) [] commonInstance
  have hdisk : Disk.state ⟨some text, none⟩ = some text := rfl
  obtain ⟨b, s, hfile, hopen, hs⟩ :=
    exists_openOn_of_read hdisk hread htoken "state.json" fun _ => none
  have hearly : s.checkAge 0 = .ok () := (checkAge_of_token hs (by decide)).trans rfl
  have hlate : s.checkAge 1700000000000 = .error .overflow :=
    (checkAge_of_token hs (by decide)).trans rfl
  refine ⟨b, s, hfile, hopen, hs, rfl, ?_, rfl, rfl, rfl, ?_, ?_⟩
  · rw [getValid, hearly, fresh?_of_token hs (by decide), if_pos (by decide)]
    rfl
  · rw [getValid, hlate]
    rfl
  · rw [tellStatus, hlate]
    rfl

end TokenStore

end Soql
