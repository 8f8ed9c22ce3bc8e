/-
# Conditions in front of other texts

How far a condition goes depends on the text after it, but not on much of it. A field and an
operator end where the next character tells, a value between quotes ends with its quote, and a
value without quotes ends before the first connective. So in front of a connective a condition
stays as it is, whatever comes after the connective, and at the end of a text it stays as it is
without the blanks after it.

Key theorems: `OperatorText.moved`, `ConditionText.moved`, `beginsConnective_append_iff`,
`ConditionText.before_connective`, `ConditionText.trimmed`, `ConditionsText.filterText`.
-/
import Soql.Proofs.Filter.Dropped

namespace Soql.Filter

open Text

/-! ### What the next character tells -/

theorem GapNext.moved {x y : List Char} (h : GapNext x) (hxy : x.head? = y.head?) : GapNext y := by
  obtain ⟨c, r, rfl, hc⟩ := h
  obtain ⟨r', rfl⟩ := List.head?_eq_some_iff.1 hxy.symm
  exact ⟨c, r', rfl, hc⟩

theorem prefix_moved {u o x y : List Char} (h : u <+: o ++ y) (hu : u.length ≤ o.length + 1)
    (hxy : x.head? = y.head?) : u <+: o ++ x := by
  cases y with
  | nil =>
    obtain rfl := List.head?_eq_none_iff.1 hxy
    exact h
  | cons d y =>
    obtain ⟨x, rfl⟩ := List.head?_eq_some_iff.1 hxy
    have hfirst : ∀ z, o ++ [d] <+: o ++ d :: z := fun z => ⟨z, by simp⟩
    have hshort : u <+: o ++ [d] :=
      List.prefix_of_prefix_length_le h (hfirst y) (by simpa using hu)
    exact hshort.trans (hfirst x)

/-- An operator is told by the one character after it. -/
theorem OperatorText.moved {o x y : List Char} {op : Operator} (h : OperatorText o op x)
    (hxy : x.head? = y.head?) : OperatorText o op y := by
  cases h with
  | sign mem longest =>
    obtain ⟨c, o, rfl, -⟩ := sign_ne_nil _ mem
    refine .sign mem fun u hu hprefix => longest u hu ?_
    have htwo := length_le_two u hu hprefix
    exact prefix_moved hprefix (by simp only [List.length_cons]; omega) hxy
  | word kind word after => exact .word kind word (after.moved hxy)
  | notIn hnot between isIn after => exact .notIn hnot between isIn (after.moved hxy)

theorem ValueText.ne_nil {t v next : List Char} (h : ValueText t v next) : t ≠ [] := by
  cases h with
  | quoted _ _ => exact List.cons_ne_nil _ _
  | bare _ _ _ nonempty =>
    rintro rfl
    exact nonempty rfl

/-- A condition is what stands before a value, and the value. Any text that begins alike and writes
the value can stand for it. -/
theorem ConditionText.moved {t next : List Char} {c : Condition} (h : ConditionText t c next) :
    ∃ b x v, t = b ++ x ∧ BeforeValue b (x ++ next) ∧ ValueText x v next ∧
      ∀ x' next', x'.head? = x.head? → ValueText x' v next' → ConditionText (b ++ x') c next' := by
  obtain ⟨nonempty, field, longest, between, operator, between', value⟩ := h
  rename_i f g o g' x v op
  refine ⟨f ++ (g ++ (o ++ g')), x, v, by simp only [List.append_assoc],
    .mk nonempty field longest between operator between', value, fun x' next' hhead hvalue => ?_⟩
  have hsame : (g' ++ (x ++ next)).head? = (g' ++ (x' ++ next')).head? := by
    obtain ⟨d, x, rfl⟩ := List.exists_cons_of_ne_nil value.ne_nil
    obtain ⟨x', rfl⟩ := List.head?_eq_some_iff.1 hhead
    simp only [List.head?_append, List.cons_append, List.head?_cons]
  have hlongest : StopsAt isFieldChar (g ++ (o ++ (g' ++ (x' ++ next')))) := by
    rw [StopsAt, List.head?_append, List.head?_append, ← hsame, ← List.head?_append,
      ← List.head?_append]
    exact longest
  have hcondition := ConditionText.mk nonempty field hlongest between (operator.moved hsame)
    between' hvalue
  simpa only [List.append_assoc] using hcondition

/-! ### Connectives -/

theorem BeginsConnective.gapNext {s : List Char} (h : BeginsConnective s) : GapNext s := by
  obtain ⟨t, k, r, ⟨⟨hne, hg⟩, -, -⟩, rfl⟩ := h
  obtain ⟨c, g, rfl⟩ := List.exists_cons_of_ne_nil hne
  exact ⟨c, _, rfl, hg c List.mem_cons_self⟩

theorem BeginsConnective.append {s : List Char} (h : BeginsConnective s) (r : List Char) :
    BeginsConnective (s ++ r) := by
  obtain ⟨t, k, r', ht, rfl⟩ := h
  exact ⟨t, k, r' ++ r, ht, by rw [List.append_assoc]⟩

/-- A text with a gap at its end that is part of gaps and a word is gaps only. -/
theorem mayGaps_of_append {u y g w : List Char} {k : Conjunction} (hg : MayGaps g)
    (hw : Spells k.word.toList w) (hlast : ∀ c ∈ u.getLast?, isGap c = true)
    (h : u ++ y = g ++ w) : MayGaps u := by
  rcases List.append_eq_append_iff.1 h with ⟨g', rfl, -⟩ | ⟨a, rfl, ha⟩
  · exact fun c hc => hg c (List.mem_append_left _ hc)
  · rcases List.eq_nil_or_concat a with rfl | ⟨a, c, rfl⟩
    · rwa [List.append_nil]
    · rw [List.concat_eq_append] at hlast ha
      have hgap := hlast c (by simp)
      have hnot := isGap_of_spells hw c (by simp [ha])
      rw [hnot] at hgap
      exact absurd hgap (by decide)

/-- A connective ends in a gap. -/
theorem ConnectiveText.isGap_getLast {w : List Char} {k : Conjunction} (h : ConnectiveText w k)
    (b : List Char) : ∀ c ∈ (b ++ w).getLast?, isGap c = true := by
  obtain ⟨-, -, hne, hafter⟩ := h
  intro c hc
  rw [← List.append_assoc, ← List.append_assoc, List.getLast?_append,
    List.getLast?_eq_some_getLast hne] at hc
  obtain rfl := Option.some.inj hc
  exact hafter _ (List.getLast_mem hne)

/-- A connective has letters. -/
theorem ConnectiveText.exists_not_isGap {w : List Char} {k : Conjunction}
    (h : ConnectiveText w k) : ∃ c ∈ w, isGap c = false := by
  obtain ⟨-, hword, -⟩ := h
  rename_i g w g'
  cases w with
  | nil => cases k <;> exact absurd hword (by decide)
  | cons c w => exact ⟨c, by simp, isGap_of_spells hword c List.mem_cons_self⟩

/-- Where a connective stands later in a text, what comes after it makes no difference to whether
a connective begins the text. -/
theorem beginsConnective_append_iff {b w : List Char} {k : Conjunction} (hw : ConnectiveText w k)
    (x : List Char) : BeginsConnective (b ++ (w ++ x)) ↔ BeginsConnective (b ++ w) := by
  refine ⟨fun h => ?_, fun h => by rw [← List.append_assoc]; exact h.append x⟩
  obtain ⟨g, m, l, c, r, hg, hm, hc, heq⟩ := beginsConnective_iff.1 h
  have hcut : b ++ w ++ x = (g ++ (m ++ [c])) ++ r := by simpa using heq
  rcases List.append_eq_append_iff.1 hcut with ⟨y, hy, -⟩ | ⟨y, hy, -⟩
  · rcases List.eq_nil_or_concat y with rfl | ⟨y, d, rfl⟩
    · rw [List.append_nil] at hy
      exact beginsConnective_iff.2 ⟨g, m, l, c, [], hg, hm, hc, hy.symm⟩
    · -- the text would be gaps only, but the connective has letters
      rw [List.concat_eq_append, ← List.append_assoc, ← List.append_assoc] at hy
      obtain ⟨hinit, -⟩ := List.append_inj' hy rfl
      have hall := mayGaps_of_append hg.2 hm (hw.isGap_getLast b) hinit.symm
      obtain ⟨e, he, hnot⟩ := hw.exists_not_isGap
      have hgap := hall e (List.mem_append_right b he)
      rw [hnot] at hgap
      exact absurd hgap (by decide)
  · rw [hy]
    exact beginsConnective_iff.2 ⟨g, m, l, c, y, hg, hm, hc, by simp⟩

theorem NoConnectiveIn.of_append {t x next : List Char} (h : NoConnectiveIn (t ++ x) next) :
    NoConnectiveIn t (x ++ next) := by
  rintro a b rfl hne
  rw [← List.append_assoc]
  exact h a (b ++ x) (List.append_assoc a b x) (List.append_ne_nil_of_left_ne_nil hne x)

/-- Less text after it does not bring a connective into a text. -/
theorem NoConnectiveIn.cut {t next r : List Char} (h : NoConnectiveIn t (next ++ r)) :
    NoConnectiveIn t next := by
  intro a b hab hne hbegins
  refine h a b hab hne ?_
  rw [← List.append_assoc]
  exact hbegins.append r

/-! ### Conditions -/

/-- In front of a connective a condition is the same whatever comes after the connective. -/
theorem ConditionText.before_connective {t w s : List Char} {c : Condition} {k : Conjunction}
    (h : ConditionText t c (w ++ s)) (hw : ConnectiveText w k) (s' : List Char) :
    ConditionText t c (w ++ s') := by
  obtain ⟨b, x, v, rfl, -, hvalue, hmoved⟩ := h.moved
  refine hmoved x _ rfl ?_
  cases hvalue with
  | quoted quote inside => exact .quoted quote inside
  | bare first inside _ nonempty =>
    refine .bare first (fun a b hab hne => ?_) (.inr ⟨w, k, s', hw, rfl⟩) nonempty
    rw [beginsConnective_append_iff hw, ← beginsConnective_append_iff hw s]
    exact inside a b hab hne

theorem not_isBlank_of_isQuote {q : Char} (h : isQuote q = true) : isBlank q = false := by
  simp only [isQuote, Bool.or_eq_true, decide_eq_true_eq] at h
  rcases h with rfl | rfl <;> decide

/-- At the end of a text a condition is the same without the blanks after it. -/
theorem ConditionText.trimmed {t next : List Char} {c : Condition} (h : ConditionText t c next) :
    ConditionText (trimEnd t) c [] := by
  obtain ⟨b, x, v, rfl, -, hvalue, hmoved⟩ := h.moved
  have hhead : (trimEnd x).head? = x.head? ∧ ValueText (trimEnd x) v [] ∧ trimEnd x ≠ [] := by
    cases hvalue with
    | @quoted q _ _ quote inside =>
      have hkept := trimEnd_append_singleton (not_isBlank_of_isQuote quote) (q :: v)
      rw [List.cons_append] at hkept
      rw [hkept]
      exact ⟨rfl, .quoted quote inside, List.cons_ne_nil _ _⟩
    | bare first inside _ nonempty =>
      obtain ⟨y, hy⟩ := isPrefix_trimEnd x
      have hhead := head?_trimEnd nonempty
      have hvalue : ValueText (trimEnd x) (trimEnd (trimEnd x)) [] := by
        refine .bare (by rwa [hhead]) ?_ (.inl rfl) (by rwa [trimEnd_trimEnd])
        have hinside : NoConnectiveIn (trimEnd x ++ y) next := by rwa [hy]
        exact NoConnectiveIn.cut (r := y ++ next) hinside.of_append
      rw [trimEnd_trimEnd] at hvalue
      exact ⟨hhead, hvalue, nonempty⟩
  obtain ⟨hhead, hvalue', hne⟩ := hhead
  rw [trimEnd_append_of_ne_nil hne]
  exact hmoved _ _ hhead hvalue'

theorem ConditionText.ne_nil {t next : List Char} {c : Condition} (h : ConditionText t c next) :
    t ≠ [] := by
  obtain ⟨nonempty, -⟩ := h
  exact List.append_ne_nil_of_left_ne_nil nonempty _

theorem FilterText.ne_nil {s : List Char} {cs : List Condition} (h : FilterText s cs) : s ≠ [] := by
  cases h with
  | last condition => exact condition.ne_nil
  | more condition _ _ => exact List.append_ne_nil_of_left_ne_nil condition.ne_nil _

/-- The conditions that a text begins with are a filter by themselves. -/
theorem ConditionsText.filterText {p next : List Char} {cs : List Condition}
    (h : ConditionsText p cs next) : FilterText (trimEnd p) cs := by
  induction h with
  | last condition => exact .last condition.trimmed
  | @more t w s next c k cs condition connective _ ih =>
    have hne := ih.ne_nil
    rw [← List.append_assoc, trimEnd_append_of_ne_nil hne, List.append_assoc]
    exact .more (condition.before_connective connective _) connective ih

end Soql.Filter
