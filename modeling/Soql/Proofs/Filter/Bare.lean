/-
# Connectives in values without quotes

A value without quotes ends before the first AND or OR that has gaps on both sides, and a whole
condition has to come after that. But the gaps in front of a value are no part of it, a filter has
no gap after it, and not every blank is a gap. So a value takes in an AND or OR that is its first
word, one that is the last word of the filter, and one beside a blank that is no gap, and no other.

Key definitions: `Bare`, `IsConnective`, `BesideOddBlank`.
Key theorems: `FilterText.quotes_or_bare`, `cases_of_connective`, `takes_connective_iff`,
`lastConnective_taken`.
-/
import Soql.Proofs.Filter.Context
import Soql.Proofs.Filter.Quoted
import Soql.Proofs.Text.Words

namespace Soql.Filter

open Text

/-- The filter has the condition `c`, and its value is written as the text `t` without quotes, with
the text `next` after it. -/
inductive Bare (c : Condition) (t next : List Char) : List Char → Prop
  | here {b v : List Char} (first : ∀ d ∈ t.head?, isQuote d = false)
      (before : BeforeValue b (t ++ next)) (value : ValueText t v next)
      (condition : ConditionText (b ++ t) c next) : Bare c t next (b ++ (t ++ next))
  | later {u w s : List Char} {d : Condition} {k : Conjunction}
      (condition : ConditionText u d (w ++ s)) (connective : ConnectiveText w k)
      (rest : Bare c t next s) : Bare c t next (u ++ (w ++ s))

/-- AND or OR in letters of either case. -/
def IsConnective (w : List Char) : Prop := ∃ k : Conjunction, Spells k.word.toList w

/-- What stands between `a` and `r` is a word, and a blank beside it is no gap. -/
def BesideOddBlank (a r : List Char) : Prop :=
  (∀ d ∈ a.getLast?, isBlank d = true) ∧ (∀ d ∈ r.head?, isBlank d = true) ∧
    ((∃ d ∈ a.getLast?, isGap d = false) ∨ ∃ d ∈ r.head?, isGap d = false)

variable {c : Condition} {t v w next s : List Char} {cs : List Condition}

/-! ### The conditions of a filter -/

/-- What stands before a value, and the value, are a condition with that value. -/
theorem BeforeValue.conditionText {b : List Char} (h : BeforeValue b (t ++ next))
    (value : ValueText t v next) :
    ∃ d, ConditionText (b ++ t) d next ∧ d.value = String.ofList v := by
  obtain ⟨nonempty, field, longest, between, operator, between'⟩ := h
  have hcondition := ConditionText.mk nonempty field longest between operator between' value
  simp only [← List.append_assoc] at hcondition ⊢
  exact ⟨_, hcondition, rfl⟩

/-- A text is a condition in one way only. -/
theorem ConditionText.unique {d : Condition} (h : ConditionText t c next)
    (h' : ConditionText t d next) : c = d := by
  have hc := readCondition_eq_ok_iff.2 ⟨t, h, rfl⟩
  have hd := readCondition_eq_ok_iff.2 ⟨t, h', rfl⟩
  exact (Prod.mk.inj (Except.ok.inj (hc.symm.trans hd))).1

/-- A condition has its value between quotes or without. -/
theorem ConditionText.quotes_or_bare (h : ConditionText t c next) :
    (∃ v, Quotes c v (t ++ next)) ∨ ∃ x, Bare c x next (t ++ next) := by
  have hcondition := h
  obtain ⟨b, x, v, rfl, before, value, -⟩ := h.moved
  have hvalue := value
  cases value with
  | @quoted q v _ quote inside =>
    simp only [List.append_assoc, List.cons_append, List.nil_append] at before ⊢
    exact .inl ⟨v, .here quote inside before hcondition⟩
  | bare first _ _ _ =>
    rw [List.append_assoc]
    exact .inr ⟨x, .here (fun d hd => (first d hd).1) before hvalue hcondition⟩

theorem ConditionText.joinedBy_none (h : ConditionText t c next) : c.joinedBy none = c := by
  cases h
  rfl

/-- Every condition of a filter has its value between quotes or without. -/
theorem FilterText.quotes_or_bare (h : FilterText s cs) : ∀ c ∈ cs,
    (∃ v, Quotes (c.joinedBy none) v s) ∨ ∃ t next, Bare (c.joinedBy none) t next s := by
  induction h with
  | last condition =>
    intro c hc
    obtain rfl := List.mem_singleton.1 hc
    rw [condition.joinedBy_none]
    have hcases := condition.quotes_or_bare
    rw [List.append_nil] at hcases
    exact hcases.imp_right fun ⟨x, hx⟩ => ⟨x, [], hx⟩
  | @more u w s d k ds condition connective rest ih =>
    intro c hc
    rcases List.mem_cons.1 hc with rfl | hc
    · have hsame : (d.joinedBy (some k)).joinedBy none = d := condition.joinedBy_none
      rw [hsame]
      exact condition.quotes_or_bare.imp_right fun ⟨x, hx⟩ => ⟨x, w ++ s, hx⟩
    · rcases ih c hc with ⟨v, hv⟩ | ⟨t, next, ht⟩
      · exact .inl ⟨v, .later condition connective hv⟩
      · exact .inr ⟨t, next, .later condition connective ht⟩

/-! ### Values without quotes -/

/-- The value is the text without the blanks after it, and it ends where a connective begins or
with the filter. -/
theorem Bare.valueText (h : Bare c t next s) : c.value.toList = trimEnd t ∧
    NoConnectiveIn t next ∧ (next = [] ∨ BeginsConnective next) ∧ trimEnd t ≠ [] := by
  induction h with
  | here first before value condition =>
    obtain ⟨d, hd, hvalue⟩ := before.conditionText value
    obtain rfl := condition.unique hd
    rw [hvalue, String.toList_ofList]
    cases value with
    | quoted quote _ => cases quote.symm.trans (first _ rfl)
    | bare _ inside after nonempty => exact ⟨rfl, inside, after, nonempty⟩
  | later _ _ _ ih => exact ih

theorem Bare.suffix (h : Bare c t next s) : t ++ next <:+ s := by
  induction h with
  | here _ _ _ _ => exact List.suffix_append _ _
  | later _ _ _ ih => exact ih.trans ((List.suffix_append _ _).trans (List.suffix_append _ _))

theorem Bare.stopsAt (h : Bare c t next s) : StopsAt isGap s := by
  cases h with
  | here _ _ _ condition =>
    rw [← List.append_assoc]
    exact condition.stopsAt
  | later condition _ _ => exact condition.stopsAt

/-- The condition is among those that are read. After its value comes the end, or a connective
and then a filter. -/
theorem Bare.mem (h : Bare c t next s) : ∀ {cs : List Condition}, FilterText s cs →
    (∃ k, c.joinedBy k ∈ cs) ∧ (next = [] ∨
      ∃ w k s' ds, ConnectiveText w k ∧ FilterText s' ds ∧ next = w ++ s') := by
  induction h with
  | here _ _ _ condition =>
    intro cs hs
    rw [← List.append_assoc] at hs
    rcases hs.cases_of_readCondition (readCondition_eq_ok_iff.2 ⟨_, condition, rfl⟩) with
      ⟨hnext, rfl⟩ | ⟨w, s', k, cs', hnext, hw, hs', rfl⟩
    · exact ⟨⟨c.conjunction, List.mem_singleton_self c⟩, .inl hnext⟩
    · exact ⟨⟨some k, List.mem_cons_self⟩, .inr ⟨w, k, s', cs', hw, hs', hnext⟩⟩
  | later condition connective rest ih =>
    intro cs hs
    obtain ⟨cs', hs', rfl⟩ := hs.rest condition connective rest.stopsAt
    obtain ⟨⟨k, hk⟩, hnext⟩ := ih hs'
    exact ⟨⟨k, List.mem_cons_of_mem _ hk⟩, hnext⟩

/-! ### Words -/

theorem IsConnective.ne_nil (h : IsConnective w) : w ≠ [] := by
  obtain ⟨k, hk⟩ := h
  rintro rfl
  cases k <;> exact absurd hk (by decide)

theorem isBlank_of_toUpper {d : Char} (h : isBlank d.toUpper = false) : isBlank d = false := by
  cases hd : isBlank d with
  | false => rfl
  | true =>
    -- no blank is a letter
    have hupper : ∀ n ∈ blankNumbers, isBlank (Char.ofNat n).toUpper = true := by decide
    have := hupper d.toNat (toNat_mem_of_isBlank hd)
    rw [Char.ofNat_toNat, h] at this
    exact absurd this (by decide)

theorem IsConnective.not_isBlank (h : IsConnective w) : ∀ d ∈ w, isBlank d = false := by
  obtain ⟨k, hk⟩ := h
  have hword : k.word.toList.all (fun d => !isBlank d) = true := by cases k <;> decide
  intro d hd
  have hupper := List.all_eq_true.1 hword d.toUpper (by rw [← hk]; exact List.mem_map_of_mem hd)
  exact isBlank_of_toUpper (by simpa using hupper)

/-- Where AND or OR stands in a value as a word, it is the first one, or the last one of the
filter, or a blank beside it is no gap. -/
theorem cases_of_connective {a b : List Char} (inside : NoConnectiveIn t next)
    (after : next = [] ∨ BeginsConnective next) (hv : trimEnd t = a ++ (w ++ b))
    (hw : IsConnective w) (ha : ∀ d ∈ a.getLast?, isBlank d = true)
    (hb : ∀ d ∈ b.head?, isBlank d = true) :
    a = [] ∨ (next = [] ∧ b = []) ∨ ∃ r, t ++ next = a ++ (w ++ r) ∧ BesideOddBlank a r := by
  obtain ⟨x, ht, hx⟩ := exists_blanks_trimEnd t
  rw [hv] at ht
  rcases List.eq_nil_or_concat a with rfl | ⟨a, d, rfl⟩
  · exact .inl rfl
  rw [List.concat_eq_append] at ha ht ⊢
  right
  have htext : t ++ next = a ++ [d] ++ (w ++ (b ++ (x ++ next))) := by
    rw [ht]
    simp only [List.append_assoc]
  cases hr : b ++ (x ++ next) with
  | nil =>
    simp only [List.append_eq_nil_iff] at hr
    exact .inl ⟨hr.2.2, hr.1⟩
  | cons e r =>
    rw [hr] at htext
    have he : isBlank e = true := by
      cases b with
      | cons e' b => exact hb e (congrArg List.head? hr)
      | nil =>
        cases x with
        | cons e' x => exact (List.cons.inj hr).1 ▸ hx e' List.mem_cons_self
        | nil =>
          rcases after with rfl | hnext
          · cases hr
          · obtain ⟨e', r', rfl, he'⟩ := hnext.gapNext
            exact (List.cons.inj hr).1 ▸ isBlank_of_isGap he'
    refine .inr ⟨e :: r, htext, ha, by simpa using he, ?_⟩
    cases hd : isGap d with
    | false => exact .inl ⟨d, by simp, hd⟩
    | true =>
      cases hgap : isGap e with
      | false => exact .inr ⟨e, rfl, hgap⟩
      | true =>
        -- the value would end here
        obtain ⟨k, hk⟩ := hw
        have hbegins : BeginsConnective (d :: (w ++ e :: r)) := beginsConnective_iff.2
          ⟨[d], w, k, e, r, ⟨List.cons_ne_nil _ _, List.forall_mem_singleton.2 hd⟩, hk, hgap, rfl⟩
        refine absurd ?_ (inside a (d :: (w ++ (b ++ x))) (by rw [ht]; simp) (List.cons_ne_nil _ _))
        rw [← hr] at hbegins
        simpa using hbegins

/-- AND or OR is one of the words of a value when it is the first or the last one, or stands beside
an odd blank. -/
theorem mem_words_of_besideOddBlank {a r : List Char} (htext : t ++ next = a ++ (w ++ r))
    (hshort : a ++ w <+: trimEnd t) (hw : IsConnective w) (h : BesideOddBlank a r) :
    w ∈ words (trimEnd t) := by
  obtain ⟨b, hb⟩ := hshort
  obtain ⟨x, ht, -⟩ := exists_blanks_trimEnd t
  obtain ⟨ha, hr, -⟩ := h
  refine mem_words_iff.2 ⟨hw.ne_nil, hw.not_isBlank, a, b, by rw [← hb, List.append_assoc], ha, ?_⟩
  have hrest : r = b ++ (x ++ next) := by
    rw [ht, ← hb] at htext
    simp only [List.append_assoc, List.append_cancel_left_eq] at htext
    exact htext.symm
  intro d hd
  exact hr d (by rw [hrest, List.head?_append, Option.mem_def.1 hd]; rfl)

/-- Every condition of an accepted filter has its value between quotes or without. A value without
quotes is followed by the end of the filter, or by a connective and a filter. It has AND or OR for a
word exactly when that is its first word, or the last word of the filter, or stands beside a blank
that is no gap; where every blank of the filter is a gap, only when it is the first word of the
value or the last one of the filter. -/
theorem takes_connective_iff {text : String} (h : parse text = .ok cs) :
    (∀ c ∈ cs, (∃ v, Quotes (c.joinedBy none) v (trim text.toList)) ∨
      ∃ t next, Bare (c.joinedBy none) t next (trim text.toList)) ∧
    ∀ c t next, Bare c t next (trim text.toList) →
      let v := c.value.toList
      let first := ∃ w ∈ (words v).head?, IsConnective w
      let last := next = [] ∧ ∃ w ∈ (words v).getLast?, IsConnective w
      (∃ k, c.joinedBy k ∈ cs) ∧ v = trimEnd t ∧
      (next = [] ∨ ∃ w k s ds, ConnectiveText w k ∧ FilterText s ds ∧ next = w ++ s) ∧
      ((∃ w ∈ words v, IsConnective w) ↔ first ∨ last ∨
        ∃ a w r, t ++ next = a ++ (w ++ r) ∧ a ++ w <+: v ∧ IsConnective w ∧ BesideOddBlank a r) ∧
      ((∀ d ∈ trim text.toList, isBlank d = true → isGap d = true) →
        ((∃ w ∈ words v, IsConnective w) ↔ first ∨ last)) := by
  rcases parse_cases h with ⟨hnil, rfl⟩ | hs
  · refine ⟨fun c hc => absurd hc List.not_mem_nil, fun c t next hbare => ?_⟩
    obtain ⟨-, -, -, hne⟩ := hbare.valueText
    have hsuffix := hbare.suffix
    rw [hnil, List.suffix_nil, List.append_eq_nil_iff] at hsuffix
    exact absurd (by rw [hsuffix.1]; rfl) hne
  refine ⟨hs.quotes_or_bare, ?_⟩
  intro c t next hbare v first last
  obtain ⟨hmem, hnext⟩ := hbare.mem hs
  obtain ⟨hvalue, inside, after, -⟩ := hbare.valueText
  have hiff : (∃ w ∈ words v, IsConnective w) ↔ first ∨ last ∨
      ∃ a w r, t ++ next = a ++ (w ++ r) ∧ a ++ w <+: v ∧ IsConnective w ∧
        BesideOddBlank a r := by
    constructor
    · rintro ⟨w, hmem, hw⟩
      obtain ⟨hne, hnot, a, b, hv, ha, hb⟩ := mem_words_iff.1 hmem
      rcases cases_of_connective inside after (hvalue.symm.trans hv) hw ha hb with
        rfl | ⟨hend, rfl⟩ | ⟨r, htext, hodd⟩
      · exact .inl ⟨w, by rw [hv]; exact head?_words hne hnot hb, hw⟩
      · exact .inr (.inl ⟨hend, w, by rw [hv, List.append_nil]; exact getLast?_words hne hnot ha,
          hw⟩)
      · exact .inr (.inr ⟨a, w, r, htext, ⟨b, by rw [hv, List.append_assoc]⟩, hw, hodd⟩)
    · rintro (⟨w, hmem, hw⟩ | ⟨-, w, hmem, hw⟩ | ⟨a, w, r, htext, hshort, hw, hodd⟩)
      · exact ⟨w, List.mem_of_mem_head? hmem, hw⟩
      · exact ⟨w, List.mem_of_mem_getLast? hmem, hw⟩
      · rw [show v = trimEnd t from hvalue] at hshort ⊢
        exact ⟨w, mem_words_of_besideOddBlank htext hshort hw hodd, hw⟩
  refine ⟨hmem, hvalue, hnext, hiff, fun hgaps => hiff.trans (or_congr_right (or_iff_left ?_))⟩
  rintro ⟨a, w, r, htext, -, -, ha, hr, hodd⟩
  have hall : ∀ d ∈ a ++ (w ++ r), isBlank d = true → isGap d = true := fun d hd =>
    hgaps d (hbare.suffix.mem (htext ▸ hd))
  rcases hodd with ⟨d, hd, hnot⟩ | ⟨d, hd, hnot⟩
  · have hgap := hall d (List.mem_append_left _ (List.mem_of_mem_getLast? hd)) (ha d hd)
    exact absurd (hgap.symm.trans hnot) (by decide)
  · have hgap := hall d (by simp [List.mem_of_mem_head? hd]) (hr d hd)
    exact absurd (hgap.symm.trans hnot) (by decide)

/-! ### Values that take in a connective -/

/-- What is read after the text before a value, up to a connective, is a value without quotes. -/
theorem bare_of_readCondition {b : List Char} {e : Char}
    (hc : readCondition (b ++ (t ++ next)) = .ok (c, next)) (before : BeforeValue b (t ++ next))
    (hcut : cutAtConnective (t ++ next) = (t, next)) (head : t.head? = some e)
    (hfirst : isQuote e = false ∧ isGap e = false) (nonempty : trimEnd t ≠ []) :
    Bare c t next (b ++ (t ++ next)) := by
  have first : ∀ d ∈ t.head?, isQuote d = false ∧ isGap d = false := fun d hd =>
    Option.some.inj (head.symm.trans hd) ▸ hfirst
  obtain ⟨-, inside, after⟩ := cutAtConnective_eq_iff.1 hcut
  obtain ⟨u, condition, hu⟩ := readCondition_eq_ok_iff.1 hc
  rw [← List.append_assoc, List.append_cancel_right_eq] at hu
  rw [← hu] at condition
  exact .here (fun d hd => (first d hd).1) before (.bare first inside after nonempty) condition

/-- The first word of a value is AND, whatever comes after the value. -/
theorem takes_connective_iff_firstWord :
    let c : Condition := ⟨"Name", .eq, "and Co", none⟩
    let cs : List Condition := [c.joinedBy (some .or), ⟨"Size", .gt, "5", none⟩]
    parse "Name = and Co OR Size > 5" = .ok cs ∧
      Bare c "and Co".toList " OR Size > 5".toList (trim "Name = and Co OR Size > 5".toList) ∧
      ∃ w ∈ words "and Co".toList, IsConnective w := by
  intro c cs
  have hparse : parse "Name = and Co OR Size > 5" = .ok cs := rfl
  have hbare : Bare c "and Co".toList " OR Size > 5".toList
      ("Name = ".toList ++ ("and Co".toList ++ " OR Size > 5".toList)) :=
    bare_of_readCondition rfl
      (beforeValue_print (f := "Name".toList) (by decide) (List.all_eq_true.1 rfl) .eq _) rfl rfl
      (by decide) (by decide)
  have htrim : trim "Name = and Co OR Size > 5".toList =
    "Name = ".toList ++ ("and Co".toList ++ " OR Size > 5".toList) := rfl
  rw [← htrim] at hbare
  obtain ⟨-, hall⟩ := takes_connective_iff hparse
  obtain ⟨-, -, -, hiff, -⟩ := hall c _ _ hbare
  exact ⟨hparse, hbare, hiff.2 (.inl ⟨"and".toList, by decide, .and, by decide⟩)⟩

/-- AND is the last word of a value, since nothing comes after it, and it begins a value that holds
a whole condition besides. -/
theorem lastConnective_taken :
    let c : Condition := ⟨"Name", .eq, "Acme AND", none⟩
    let d : Condition := ⟨"Name", .eq, "AND Size > 5", none⟩
    parse "Name = Acme AND" = .ok [c] ∧
      Bare c "Acme AND".toList [] (trim "Name = Acme AND".toList) ∧
      "AND".toList ∈ words c.value.toList ∧
      parse "Name = AND Size > 5" = .ok [d] ∧
      Bare d "AND Size > 5".toList [] (trim "Name = AND Size > 5".toList) ∧
      "AND".toList ∈ words d.value.toList ∧ IsConnective "AND".toList := by
  intro c d
  have hbefore (next : List Char) : BeforeValue "Name = ".toList next :=
    beforeValue_print (f := "Name".toList) (by decide) (List.all_eq_true.1 rfl) .eq next
  exact ⟨rfl, bare_of_readCondition rfl (hbefore _) rfl rfl (by decide) (by decide), by decide, rfl,
    bare_of_readCondition rfl (hbefore _) rfl rfl (by decide) (by decide), by decide, .and,
    by decide⟩

end Soql.Filter
