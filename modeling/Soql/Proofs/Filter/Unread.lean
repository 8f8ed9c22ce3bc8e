/-
# What a rejected filter leaves unread

A text that is no filter either does not begin with a condition, and then the fault in it is told;
or it begins with conditions, and then all that comes after the last of them is told. Those
conditions are a filter by themselves, and the text goes on with no further one. Of an accepted
filter nothing is left unread.

Key theorems: `ConditionsText.suffix_of_readConditions`, `ConditionsText.parse_eq_ok`,
`parse_eq_error`, `rejected_tells_unread`.
-/
import Soql.Proofs.Filter.Context

namespace Soql.Filter

open Text

variable {s p r : List Char} {cs : List Condition}

/-! ### Faults -/

theorem readConditions_eq_error_iff {fault : FilterFault} :
    readConditions s = .error fault ↔ readCondition s = .error fault := by
  rw [readConditions]
  cases readCondition s with
  | error fault' => simp [bind, Except.bind]
  | ok x => simp [bind, Except.bind, pure, Except.pure]

theorem not_beginsCondition {fault : FilterFault} (h : readCondition s = .error fault) :
    ¬BeginsCondition s := by
  intro hbegins
  obtain ⟨c, r, hc⟩ := beginsCondition_iff.1 hbegins
  rw [hc] at h
  cases h

theorem rest_of_readValue {fault : FilterFault} (h : readValue s = .error fault) :
    fault.rest = s := by
  rw [readValue.eq_def] at h
  split at h
  · cases h
    rfl
  · split at h
    · split at h <;> cases h
      rfl
    · split at h <;> cases h
      rfl

/-- A fault is told with the text from the place on where it was met. -/
theorem suffix_of_readCondition {fault : FilterFault} (h : readCondition s = .error fault) :
    fault.rest <:+ s := by
  have hfield : skipGaps (s.dropWhile isFieldChar) <:+ s :=
    (List.dropWhile_suffix isGap).trans (List.dropWhile_suffix isFieldChar)
  rw [readCondition] at h
  simp only [bind, Except.bind, pure, Except.pure, throw, throwThe, MonadExceptOf.throw] at h
  split at h
  · cases h
    exact List.suffix_refl s
  · split at h
    · rename_i op s' hop
      obtain ⟨o, -, hs'⟩ := readOperator?_eq_some_iff.1 hop
      split at h
      · rename_i fault' hvalue
        cases h
        rw [rest_of_readValue hvalue]
        refine (List.dropWhile_suffix isGap).trans (List.IsSuffix.trans ?_ hfield)
        exact ⟨o, hs'.symm⟩
      · cases h
    · cases h
      exact hfield

theorem message_badFilter (fault : FilterFault) : (QueryError.badFilter fault).message =
    "Parse error: Parse error: Error(Error \x7b input: " ++ String.ofList (quoted fault.rest) ++
      ", code: " ++ fault.code ++ " \x7d)" := by
  have hmessage : (QueryError.badFilter fault).message = "Parse error: Parse error: " ++
      ("Error(Error \x7b input: " ++ String.ofList (quoted fault.rest) ++ ", code: " ++
        fault.code ++ " \x7d)") := rfl
  have hstart : "Parse error: Parse error: Error(Error \x7b input: " =
      "Parse error: Parse error: " ++ "Error(Error \x7b input: " := by decide
  refine hmessage.trans ?_
  simp only [hstart, String.append_assoc]

theorem message_unreadFilter (rest : String) : (QueryError.unreadFilter rest).message =
    "Parse error: Unexpected input after filter: '" ++ rest ++ "'" := rfl

theorem code_mem (fault : FilterFault) : fault.code ∈ ["TakeWhile1", "Tag", "Char"] := by
  cases fault <;> simp [FilterFault.code]

/-! ### Conditions that a text begins with -/

theorem ConditionsText.beginsCondition (h : ConditionsText p cs r) : BeginsCondition (p ++ r) := by
  cases h with
  | last condition => exact ⟨p, _, r, condition, rfl⟩
  | more condition _ _ => exact ⟨_, _, _, condition, by simp only [List.append_assoc]⟩

theorem ConditionsText.ne_nil (h : ConditionsText p cs r) : cs ≠ [] := by
  cases h <;> exact List.cons_ne_nil _ _

/-- Conditions that a text begins with are not left unread. -/
theorem ConditionsText.suffix_of_readConditions {r' : List Char} {cs' : List Condition}
    (h : ConditionsText p cs r) (hread : readConditions (p ++ r) = .ok (cs', r')) : r' <:+ r := by
  obtain ⟨c, x, hc, -, rfl⟩ := readConditions_eq_ok.1 hread
  obtain ⟨d, y, hd, hmore⟩ := readMore_of_conditionsText h
  obtain ⟨rfl, rfl⟩ := Prod.mk.inj (Except.ok.inj (hd.symm.trans hc))
  exact (hmore _ (Nat.le_refl _)).1

theorem prefix_of_suffix {p' r' : List Char} (h : p ++ r = p' ++ r') (hr : r <:+ r') :
    p' <+: p := by
  have hlength := congrArg List.length h
  have hshort := hr.length_le
  simp only [List.length_append] at hlength
  exact List.prefix_of_prefix_length_le ⟨r', h.symm⟩ (List.prefix_append p r) (by omega)

theorem ConditionText.stopsAt_isBlank {t next : List Char} {c : Condition}
    (h : ConditionText t c next) (s : List Char) : StopsAt isBlank (t ++ s) := by
  obtain ⟨nonempty, field, -⟩ := h
  rename_i f _ _ _ _ _ _
  obtain ⟨d, f', rfl⟩ := List.exists_cons_of_ne_nil nonempty
  exact stopsAt_cons.2 (not_isBlank_of_isFieldChar (field d List.mem_cons_self))

/-- The conditions that a text begins with are accepted as a filter. -/
theorem ConditionsText.parse_eq_ok (h : ConditionsText p cs r) :
    parse (String.ofList p) = .ok cs := by
  have hstart : StopsAt isBlank p := by
    cases h with
    | last condition => simpa using condition.stopsAt_isBlank []
    | more condition _ _ => exact condition.stopsAt_isBlank _
  have htrim : trim p = trimEnd p := by rw [trim, trimStart, dropWhile_of_stops hstart]
  have hfilter := h.filterText
  rw [← htrim, ← String.toList_ofList (l := p)] at hfilter
  exact (parse_eq_ok_iff_filterText hfilter.ne_nil).2 hfilter

/-! ### Rejected and accepted texts -/

/-- A text is rejected because no condition is read from it, or because some of it is left over. -/
theorem parse_eq_error {text : String} {e : QueryError} (h : parse text = .error e) :
    (∃ fault, readConditions (trim text.toList) = .error fault ∧ e = .badFilter fault) ∨
      ∃ cs r, readConditions (trim text.toList) = .ok (cs, r) ∧ trim r ≠ [] ∧
        e = .unreadFilter (String.ofList (trim r)) := by
  rw [parse.eq_def] at h
  split at h
  · cases h
  · split at h
    · rename_i fault hread
      cases h
      exact .inl ⟨fault, hread, rfl⟩
    · rename_i cs r hread
      split at h
      · cases h
      · rename_i hne
        cases h
        exact .inr ⟨cs, r, hread, hne, rfl⟩

/-- A rejected text does not begin with a condition, and the fault in it is told with the text from
there on; or it is cut where it goes on no longer, and what comes after the cut is told: there are
conditions before the cut, by themselves they are accepted, and no cut can be made later. Of an
accepted text nothing is left over. -/
theorem rejected_tells_unread (text : String) :
    let s := trim text.toList
    (∀ e, parse text = .error e →
      (¬BeginsCondition s ∧ ∃ rest code, rest <:+ s ∧ code ∈ ["TakeWhile1", "Tag", "Char"] ∧
        e.message = "Parse error: Parse error: Error(Error \x7b input: " ++
          String.ofList (quoted rest) ++ ", code: " ++ code ++ " \x7d)") ∨
      BeginsCondition s ∧ ∃ p r cs, s = p ++ r ∧ ConditionsText p cs r ∧ ¬GoesOn r ∧
        parse (String.ofList p) = .ok cs ∧ cs ≠ [] ∧ trim r ≠ [] ∧
        e.message = "Parse error: Unexpected input after filter: '" ++
          String.ofList (trim r) ++ "'" ∧
        ∀ p' r' cs', s = p' ++ r' → ConditionsText p' cs' r' → p' <+: p) ∧
    ∀ cs, parse text = .ok cs →
      s = [] ∧ cs = [] ∨ s ≠ [] ∧ readConditions s = .ok (cs, []) := by
  intro s
  refine ⟨fun e h => ?_, fun cs h => ?_⟩
  · rcases parse_eq_error h with ⟨fault, hread, rfl⟩ | ⟨cs, r, hread, hne, rfl⟩
    · rw [readConditions_eq_error_iff] at hread
      exact .inl ⟨not_beginsCondition hread, fault.rest, fault.code,
        suffix_of_readCondition hread, code_mem fault, message_badFilter fault⟩
    · obtain ⟨p, hp, hconditions, hstop⟩ := readConditions_eq_ok_iff.1 hread
      have hbegins : BeginsCondition (trim text.toList) := hp ▸ hconditions.beginsCondition
      refine .inr ⟨hbegins, p, r, cs, hp, hconditions, hstop, hconditions.parse_eq_ok,
        hconditions.ne_nil, hne, message_unreadFilter _, fun p' r' cs' hp' hconditions' => ?_⟩
      rw [show trim text.toList = p' ++ r' from hp'] at hread
      exact prefix_of_suffix (hp.symm.trans hp') (hconditions'.suffix_of_readConditions hread)
  · rcases parse_cases h with ⟨hnil, rfl⟩ | hfilter
    · exact .inl ⟨hnil, rfl⟩
    · exact .inr ⟨hfilter.ne_nil, readConditions_eq_ok_nil_iff.2 hfilter⟩

/-- The last field has no operator, so the text is cut before the connective in front of it. -/
theorem rejected_tells_unread_noOperator :
    parse " Name = 'x' or Size > 5\tAND B " = .error (.unreadFilter "AND B") ∧
    ¬GoesOn "\tAND B".toList ∧
    parse (String.ofList "Name = 'x' or Size > 5".toList) =
      .ok [⟨"Name", .eq, "x", some .or⟩, ⟨"Size", .gt, "5", none⟩] ∧
    parse "Name = 'x'" = .ok [⟨"Name", .eq, "x", none⟩] ∧
    readConditions (trim "Name = 'x'".toList) = .ok ([⟨"Name", .eq, "x", none⟩], []) := by
  have h : parse " Name = 'x' or Size > 5\tAND B " = .error (.unreadFilter "AND B") := rfl
  have hread : readConditions (trim " Name = 'x' or Size > 5\tAND B ".toList) =
      .ok ([⟨"Name", .eq, "x", some .or⟩, ⟨"Size", .gt, "5", none⟩], "\tAND B".toList) := rfl
  have hone : parse "Name = 'x'" = .ok [⟨"Name", .eq, "x", none⟩] := rfl
  have hwhole := ((rejected_tells_unread "Name = 'x'").2 _ hone).resolve_left
    fun hnil => absurd hnil.1 (by decide)
  rcases (rejected_tells_unread " Name = 'x' or Size > 5\tAND B ").1 _ h with
    ⟨hnot, -⟩ | ⟨-, p, r, cs, hp, hconditions, hstop, hparse, -⟩
  · obtain ⟨c, r, hc, -⟩ := readConditions_eq_ok.1 hread
    exact absurd (beginsCondition_iff.2 ⟨c, r, hc⟩) hnot
  · -- the cut is where reading makes it
    have hcut := readConditions_eq_ok_iff.2 ⟨p, hp, hconditions, hstop⟩
    obtain ⟨rfl, rfl⟩ := Prod.mk.inj (Except.ok.inj (hread.symm.trans hcut))
    have htext : trim " Name = 'x' or Size > 5\tAND B ".toList =
        "Name = 'x' or Size > 5".toList ++ "\tAND B".toList := by decide
    obtain rfl := List.append_cancel_right (htext.symm.trans hp)
    exact ⟨h, hstop, hparse, hone, hwhole.2⟩

end Soql.Filter
