/-
# Conditions that are printed are read back

A list of conditions is printed as a filter with one blank between the parts. A value is
written in quotes of a kind that it does not hold, or without quotes when it can stand so:
when its ends are plain and none of its words is AND or OR.

The text is a filter by the grammar, whatever the values hold and however the styles are
mixed, so reading it gives the conditions again.

Key definitions: `Style`, `StandsBare`, `Printable`, `Chained`, `print`.
Key theorems: `cases_of_beginsConnective`, `noConnectiveIn_of_standsBare`, `filterText_print`,
`parse_print`.
-/
import Soql.Proofs.Filter.Reading

namespace Soql.Filter

open Text

/-- How a value is written. -/
inductive Style where
  | quoted
  | bare
deriving DecidableEq, Repr

/-- Double quotes around a value that holds a single one. -/
def quoteFor (v : List Char) : Char := if '\'' ∈ v then '"' else '\''

def printValue : Style → List Char → List Char
  | .quoted, v => quoteFor v :: (v ++ [quoteFor v])
  | .bare, v => v

def printCondition (style : Style) (c : Condition) : List Char :=
  c.field.toList ++ ([' '] ++
    (c.operator.symbol.toList ++ ([' '] ++ printValue style c.value.toList)))

def printConjunction : Option Conjunction → List Char
  | some k => [' '] ++ (k.word.toList ++ [' '])
  | none => []

/-- The conditions as a filter, each in its style. -/
def print : List (Style × Condition) → List Char
  | [] => []
  | [(style, c)] => printCondition style c
  | (style, c) :: next :: rest =>
    printCondition style c ++ (printConjunction c.conjunction ++ print (next :: rest))

/-- A value that can be written without quotes. -/
structure StandsBare (v : List Char) : Prop where
  nonempty : v ≠ []
  first : ∀ c ∈ v.head?, isQuote c = false ∧ isGap c = false
  last : ∀ c ∈ v.getLast?, isBlank c = false
  words : ∀ w ∈ pieces isGap v, ∀ k : Conjunction, ¬ Spells k.word.toList w

/-- A condition that can be written in a style. -/
structure Printable (style : Style) (c : Condition) : Prop where
  field_ne : c.field.toList ≠ []
  field : ∀ d ∈ c.field.toList, isFieldChar d = true
  quoted : style = .quoted → ¬ ('\'' ∈ c.value.toList ∧ '"' ∈ c.value.toList)
  bare : style = .bare → StandsBare c.value.toList

/-- Every condition says how the next one is joined, and the last one says nothing. -/
def Chained : List Condition → Prop
  | [] => True
  | [c] => c.conjunction = none
  | c :: d :: cs => c.conjunction.isSome = true ∧ Chained (d :: cs)

/-! ### Values without quotes -/

theorem isBlank_of_isGap {c : Char} (h : isGap c = true) : isBlank c = true := by
  rcases isGap_eq h with rfl | rfl | rfl | rfl <;> decide

theorem not_isGap_of_not_isBlank {c : Char} (h : isBlank c = false) : isGap c = false := by
  cases hc : isGap c with
  | false => rfl
  | true => exact absurd (isBlank_of_isGap hc) (by rw [h]; decide)

/-- A word between gaps is one of the words of the text. -/
theorem mem_pieces_of_gaps {a w b : List Char} {c : Char} (hc : isGap c = true)
    (hw : ∀ d ∈ w, isGap d = false) (hb : b = [] ∨ GapNext b) :
    w ∈ pieces isGap (a ++ c :: (w ++ b)) := by
  rw [pieces_append_sep isGap hc]
  refine List.mem_append_right _ ?_
  rcases hb with rfl | ⟨d, r, rfl, hd⟩
  · rw [List.append_nil, pieces_of_not_mem hw]
    exact List.mem_singleton_self w
  · rw [pieces_append_sep isGap hd, pieces_of_not_mem hw]
    exact List.mem_append_left _ (List.mem_singleton_self w)

theorem isGap_of_spells {k : Conjunction} {w : List Char} (h : Spells k.word.toList w) :
    ∀ c ∈ w, isGap c = false := by
  have hword : k.word.toList.all (fun c => !isGap c) = true := by cases k <;> decide
  intro c hc
  have hupper := List.all_eq_true.1 hword c.toUpper (by rw [← h]; exact List.mem_map_of_mem hc)
  exact isGap_of_toUpper (by simpa using hupper)

/-- A text that ends with no gap is longer than gaps that both begin with. -/
theorem append_of_gaps {b next g r : List Char} (hne : b ≠ [])
    (hlast : ∀ c ∈ b.getLast?, isGap c = false) (hg : MayGaps g) (h : b ++ next = g ++ r) :
    ∃ b', b = g ++ b' ∧ r = b' ++ next := by
  rcases List.append_eq_append_iff.1 h with ⟨g', rfl, -⟩ | ⟨b', rfl, hr⟩
  · have hmem := List.getLast?_eq_some_getLast hne
    have hgap := hg _ (List.mem_append_left _ (List.getLast_mem hne))
    rw [hlast _ hmem] at hgap
    exact absurd hgap (by decide)
  · exact ⟨b', rfl, hr⟩

/-- A connective begins where gaps, a word and one more gap come next. -/
theorem beginsConnective_iff {s : List Char} : BeginsConnective s ↔
    ∃ g w k c r, Gaps g ∧ Spells (Conjunction.word k).toList w ∧ isGap c = true ∧
      s = g ++ (w ++ c :: r) := by
  constructor
  · rintro ⟨t, k, r, ⟨hg, hw, hne, hg'⟩, rfl⟩
    rename_i g w g'
    obtain ⟨c, g'', rfl⟩ := List.exists_cons_of_ne_nil hne
    exact ⟨g, w, k, c, g'' ++ r, hg, hw, hg' c List.mem_cons_self, by simp⟩
  · rintro ⟨g, w, k, c, r, hg, hw, hc, rfl⟩
    exact ⟨g ++ (w ++ [c]), k, r, .mk hg hw ⟨List.cons_ne_nil _ _, List.forall_mem_singleton.2 hc⟩,
      by simp⟩

/-- A connective that begins in a text without a gap at its end stands there in full, or its word
stands at the end. -/
theorem cases_of_beginsConnective {b next : List Char} (hne : b ≠ [])
    (hlast : ∀ c ∈ b.getLast?, isGap c = false) (hnext : next = [] ∨ GapNext next)
    (h : BeginsConnective (b ++ next)) :
    BeginsConnective b ∨ ∃ g w k, Gaps g ∧ Spells (Conjunction.word k).toList w ∧ b = g ++ w := by
  obtain ⟨g, w, k, c, r, hg, hw, hc, h⟩ := beginsConnective_iff.1 h
  obtain ⟨b', rfl, hb'⟩ := append_of_gaps hne hlast hg.2 h
  rcases List.append_eq_append_iff.1 hb' with ⟨b'', rfl, hb''⟩ | ⟨w', rfl, hw'⟩
  · cases b'' with
    | nil => exact .inr ⟨g, w, k, hg, hw, by rw [List.append_nil]⟩
    | cons d b'' =>
      obtain ⟨rfl, -⟩ := List.cons.inj hb''
      exact .inl (beginsConnective_iff.2 ⟨g, w, k, c, b'', hg, hw, hc, rfl⟩)
  · cases w' with
    | nil => exact .inr ⟨g, b', k, hg, by rwa [List.append_nil] at hw, rfl⟩
    | cons d w' =>
      -- the word goes on after the text, where a gap would have to stand
      have hd := isGap_of_spells hw d (by simp)
      rcases hnext with rfl | ⟨e, next', rfl, he⟩
      · exact absurd hw' (by simp)
      · rw [(List.cons.inj hw').1, hd] at he
        exact absurd he (by decide)

/-- A value that can stand without quotes ends where a gap comes next, and no earlier. -/
theorem noConnectiveIn_of_standsBare {v next : List Char} (hv : StandsBare v)
    (hnext : next = [] ∨ GapNext next) : NoConnectiveIn v next := by
  rintro a b rfl hne hbegins
  have hlast : ∀ c ∈ b.getLast?, isGap c = false := fun c hc => not_isGap_of_not_isBlank
    (hv.last c (by rw [List.getLast?_append, Option.mem_def.1 hc]; rfl))
  -- the word would be one of the words of the value
  have hinside : ∀ {g w b' k}, Gaps g → Spells (Conjunction.word k).toList w →
      (b' = [] ∨ GapNext b') → b ≠ g ++ (w ++ b') := by
    rintro g w b' k ⟨hgne, hg⟩ hw hend rfl
    rcases List.eq_nil_or_concat g with rfl | ⟨g₀, c, rfl⟩
    · exact hgne rfl
    · rw [List.concat_eq_append] at hg hv
      have hmem := mem_pieces_of_gaps (a := a ++ g₀) (hg c (by simp)) (isGap_of_spells hw) hend
      exact hv.words w (by simpa using hmem) k hw
  rcases cases_of_beginsConnective hne hlast hnext hbegins with hb | ⟨g, w, k, hg, hw, hb⟩
  · obtain ⟨g, w, k, c, r, hg, hw, hc, hb⟩ := beginsConnective_iff.1 hb
    exact hinside hg hw (Or.inr ⟨c, r, rfl, hc⟩) hb
  · exact hinside hg hw (Or.inl rfl) (by rw [hb, List.append_nil])

/-! ### The text is a filter -/

theorem gaps_blank : Gaps [' '] := by
  refine ⟨List.cons_ne_nil _ _, fun c hc => ?_⟩
  rw [List.mem_singleton.1 hc]
  decide

theorem connectiveText_print (k : Conjunction) : ConnectiveText (printConjunction (some k)) k :=
  .mk gaps_blank (by cases k <;> rfl) gaps_blank

/-- What may follow a condition that is printed. -/
def AfterCondition (next : List Char) : Prop :=
  next = [] ∨ ∃ k r, next = printConjunction (some k) ++ r

theorem AfterCondition.gapNext {next : List Char} (h : AfterCondition next) :
    next = [] ∨ GapNext next := by
  refine h.imp_right fun ⟨k, r, hr⟩ => ⟨' ', k.word.toList ++ [' '] ++ r, ?_, by decide⟩
  rw [hr]
  simp [printConjunction]

theorem AfterCondition.beginsConnective {next : List Char} (h : AfterCondition next) :
    next = [] ∨ BeginsConnective next :=
  h.imp_right fun ⟨k, r, hr⟩ => ⟨_, k, r, connectiveText_print k, hr⟩

theorem isQuote_quoteFor (v : List Char) : isQuote (quoteFor v) = true := by
  rw [quoteFor]
  split <;> decide

theorem quoteFor_not_mem {v : List Char} (h : ¬('\'' ∈ v ∧ '"' ∈ v)) : quoteFor v ∉ v := by
  rw [quoteFor]
  split
  · rename_i hq
    exact fun hd => h ⟨hq, hd⟩
  · rename_i hq
    exact hq

theorem valueText_print {style : Style} {c : Condition} {next : List Char} (h : Printable style c)
    (hnext : AfterCondition next) :
    ValueText (printValue style c.value.toList) c.value.toList next := by
  cases style with
  | quoted => exact .quoted (isQuote_quoteFor _) (quoteFor_not_mem (h.quoted rfl))
  | bare =>
    have hbare := h.bare rfl
    have hkept : trimEnd c.value.toList = c.value.toList := by
      rcases List.eq_nil_or_concat c.value.toList with hnil | ⟨v, d, hd⟩
      · exact absurd hnil hbare.nonempty
      · rw [List.concat_eq_append] at hd
        have hblank := hbare.last d (by rw [hd]; simp)
        rw [hd, trimEnd_append_singleton hblank]
    have hvalue := ValueText.bare hbare.first (noConnectiveIn_of_standsBare hbare hnext.gapNext)
      hnext.beginsConnective (by rw [hkept]; exact hbare.nonempty)
    rwa [hkept] at hvalue

theorem operatorText_symbol (op : Operator) (r : List Char) :
    OperatorText op.symbol.toList op ([' '] ++ r) := by
  have hgap : GapNext ([' '] ++ r) := ⟨' ', r, rfl, by decide⟩
  have hone : ∀ {c : Char}, (∀ u ∈ signs, u.1 ≠ [c, ' ']) →
      ∀ u ∈ signs, u.1 <+: [c] ++ ([' '] ++ r) → u.1.length ≤ 1 := fun hc =>
    longest_singleton fun d t hd => (List.cons.inj hd).1 ▸ hc
  cases op with
  | eq => exact .sign (by decide) (hone (by decide))
  | ne => exact .sign (by decide) length_le_two
  | like => exact .word (Or.inl rfl) rfl hgap
  | gt => exact .sign (by decide) (hone (by decide))
  | lt => exact .sign (by decide) (hone (by decide))
  | ge => exact .sign (by decide) length_le_two
  | le => exact .sign (by decide) length_le_two
  | isIn => exact .word (Or.inr rfl) rfl hgap
  | notIn =>
    exact .notIn (n := ['N', 'O', 'T']) (g := [' ']) (i := ['I', 'N']) rfl
      gaps_blank rfl hgap

theorem conditionText_print {style : Style} {c : Condition} {next : List Char}
    (h : Printable style c) (hnext : AfterCondition next) :
    ConditionText (printCondition style c) (c.joinedBy none) next := by
  have htext := ConditionText.mk h.field_ne h.field (stopsAt_cons.2 (by decide)) gaps_blank.2
    (operatorText_symbol c.operator _) gaps_blank.2 (valueText_print h hnext)
  rw [String.ofList_toList, String.ofList_toList] at htext
  exact htext

theorem filterText_print : ∀ {l : List (Style × Condition)}, l ≠ [] →
    (∀ p ∈ l, Printable p.1 p.2) → Chained (l.map Prod.snd) → FilterText (print l) (l.map Prod.snd)
  | [], h, _, _ => absurd rfl h
  | [(style, c)], _, hl, hc => by
    have htext := conditionText_print (hl _ List.mem_cons_self) (Or.inl rfl)
    have hlast : c.joinedBy none = c := by
      rw [Condition.joinedBy, ← (hc : c.conjunction = none)]
    rw [hlast] at htext
    exact .last htext
  | (style, c) :: next :: rest, _, hl, hc => by
    obtain ⟨k, hk⟩ := Option.isSome_iff_exists.1 hc.1
    have hrest := filterText_print (List.cons_ne_nil next rest)
      (fun p hp => hl p (List.mem_cons_of_mem _ hp)) hc.2
    have htext := conditionText_print (hl _ List.mem_cons_self)
      (Or.inr ⟨k, print (next :: rest), rfl⟩)
    have hjoin : (c.joinedBy none).joinedBy (some k) = c := by
      rw [Condition.joinedBy, Condition.joinedBy, ← hk]
    have hmore := FilterText.more htext (connectiveText_print k) hrest
    rw [hjoin] at hmore
    rw [print, hk]
    exact hmore

/-! ### Reading the text back -/

/-- The numbers of the blank characters. -/
def blankNumbers : List Nat := [0x9, 0xA, 0xB, 0xC, 0xD, 0x20, 0x85, 0xA0, 0x1680, 0x2000, 0x2001,
  0x2002, 0x2003, 0x2004, 0x2005, 0x2006, 0x2007, 0x2008, 0x2009, 0x200A, 0x2028, 0x2029, 0x202F,
  0x205F, 0x3000]

theorem toNat_mem_of_isBlank {c : Char} (h : isBlank c = true) : c.toNat ∈ blankNumbers := by
  simp only [isBlank] at h
  simp only [blankNumbers, List.mem_cons, List.not_mem_nil, or_false]
  split at h
  · simp only [Bool.or_eq_true, Bool.and_eq_true, beq_iff_eq, decide_eq_true_eq] at h
    omega
  · simp only [Bool.or_eq_true, Bool.and_eq_true, beq_iff_eq, decide_eq_true_eq] at h
    omega

theorem not_isBlank_of_isFieldChar {c : Char} (h : isFieldChar c = true) : isBlank c = false := by
  have hnone : ∀ n ∈ blankNumbers, isFieldChar (Char.ofNat n) = false := by decide +kernel
  cases hc : isBlank c with
  | false => rfl
  | true =>
    have := hnone c.toNat (toNat_mem_of_isBlank hc)
    rw [Char.ofNat_toNat, h] at this
    exact absurd this (by decide)

theorem printValue_end {style : Style} {c : Condition} (h : Printable style c) :
    ∃ t d, printValue style c.value.toList = t ++ [d] ∧ isBlank d = false := by
  cases style with
  | quoted =>
    refine ⟨_, _, (List.cons_append ..).symm, ?_⟩
    rw [quoteFor]
    split <;> decide
  | bare =>
    have hbare := h.bare rfl
    rcases List.eq_nil_or_concat c.value.toList with hnil | ⟨v, d, hd⟩
    · exact absurd hnil hbare.nonempty
    · rw [List.concat_eq_append] at hd
      exact ⟨v, d, hd, hbare.last d (by rw [hd]; simp)⟩

theorem print_end : ∀ {l : List (Style × Condition)}, l ≠ [] → (∀ p ∈ l, Printable p.1 p.2) →
    ∃ t d, print l = t ++ [d] ∧ isBlank d = false
  | [], h, _ => absurd rfl h
  | [(style, c)], _, hl => by
    obtain ⟨t, d, ht, hd⟩ := printValue_end (hl _ List.mem_cons_self)
    refine ⟨c.field.toList ++ ([' '] ++ (c.operator.symbol.toList ++ ([' '] ++ t))), d, ?_, hd⟩
    simp [print, printCondition, ht]
  | (style, c) :: next :: rest, _, hl => by
    obtain ⟨t, d, ht, hd⟩ := print_end (List.cons_ne_nil next rest)
      fun p hp => hl p (List.mem_cons_of_mem _ hp)
    exact ⟨printCondition style c ++ (printConjunction c.conjunction ++ t), d,
      by simp [print, ht], hd⟩

theorem print_head {l : List (Style × Condition)} (hne : l ≠ [])
    (hl : ∀ p ∈ l, Printable p.1 p.2) : ∀ d ∈ (print l).head?, isBlank d = false := by
  intro d hd
  obtain ⟨⟨style, c⟩, rest, rfl⟩ := List.exists_cons_of_ne_nil hne
  have hprint := hl _ List.mem_cons_self
  obtain ⟨e, f, hf⟩ := List.exists_cons_of_ne_nil hprint.field_ne
  have hhead : (print ((style, c) :: rest)).head? = some e := by
    cases rest with
    | nil => simp [print, printCondition, hf]
    | cons next rest => simp [print, printCondition, hf]
  rw [hhead] at hd
  rw [← Option.mem_some.1 hd]
  exact not_isBlank_of_isFieldChar (hprint.field e (by rw [hf]; exact List.mem_cons_self))

/-- **Printing and then reading gives the conditions again,** whichever values stand in quotes. -/
theorem parse_print {l : List (Style × Condition)} (hne : l ≠ [])
    (hl : ∀ p ∈ l, Printable p.1 p.2) (hc : Chained (l.map Prod.snd)) :
    parse (String.ofList (print l)) = .ok (l.map Prod.snd) := by
  obtain ⟨t, d, hend, hd⟩ := print_end hne hl
  have htrim : trim (String.ofList (print l)).toList = print l := by
    rw [String.toList_ofList]
    exact trim_eq_self hend hd (print_head hne hl)
  rw [parse_eq_ok_of_ne_nil (by rw [htrim, hend]; simp), htrim, readConditions_eq_ok_nil_iff]
  exact filterText_print hne hl hc

/-- Values with a connective, both kinds of gaps and a quote, in both styles. -/
def mixedStyles : List (Style × Condition) :=
  [(.quoted, ⟨"Owner.Name", .notIn, "Ann's AND\nBob's", some .or⟩),
    (.bare, ⟨"AND", .le, "sand\tor-der", some .and⟩), (.quoted, ⟨"X", .like, "", none⟩)]

theorem parse_print_mixedStyles : mixedStyles ≠ [] ∧ (∀ p ∈ mixedStyles, Printable p.1 p.2) ∧
    Chained (mixedStyles.map Prod.snd) ∧
    parse (String.ofList (print mixedStyles)) = .ok (mixedStyles.map Prod.snd) := by
  have hne : mixedStyles ≠ [] := List.cons_ne_nil _ _
  have hl : ∀ p ∈ mixedStyles, Printable p.1 p.2 := by
    intro p hp
    simp only [mixedStyles, List.mem_cons, List.not_mem_nil, or_false] at hp
    rcases hp with rfl | rfl | rfl
    · exact ⟨by decide, List.all_eq_true.1 (by decide), fun _ => by decide,
        fun h => absurd h (by decide)⟩
    · refine ⟨by decide, List.all_eq_true.1 (by decide), fun h => absurd h (by decide), fun _ => ?_⟩
      refine ⟨by decide, fun c hc => ?_, fun c hc => ?_, fun w hw k => ?_⟩
      · obtain rfl := Option.some.inj hc
        decide
      · obtain rfl := Option.some.inj hc
        decide
      · revert w
        cases k <;> decide
    · exact ⟨by decide, List.all_eq_true.1 (by decide), fun _ => by decide,
        fun h => absurd h (by decide)⟩
  have hc : Chained (mixedStyles.map Prod.snd) := ⟨rfl, rfl, rfl⟩
  exact ⟨hne, hl, hc, parse_print hne hl hc⟩

end Soql.Filter
