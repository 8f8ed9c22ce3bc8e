/-
# Reading accepts exactly the grammar of filters

Each reader is shown to cut its text as the grammar does and in no other way, from gaps
and words up to conditions. A condition may be followed by a connective whose own
condition fails; then the text is no filter, since no other cut of it is left.

Key theorems: `readConnective?_eq_some_iff`, `cutAtConnective_eq_iff`,
`readOperator?_eq_some_iff`, `readValue_eq_ok_iff`, `readCondition_eq_ok_iff`,
`readConditions_eq_ok_iff`, `parse_eq_ok_iff_filterText`.
-/
import Soql.Proofs.Filter.Grammar
import Soql.Proofs.Text.Trim

namespace Soql.Filter

open Text

/-! ### Gaps and words -/

theorem isGap_eq {c : Char} (h : isGap c = true) : c = ' ' ∨ c = '\t' ∨ c = '\r' ∨ c = '\n' := by
  simpa [isGap, or_assoc] using h

theorem skipGaps_append {g r : List Char} (hg : MayGaps g) (hr : StopsAt isGap r) :
    skipGaps (g ++ r) = r := by
  rw [skipGaps, List.dropWhile_append_of_pos hg, dropWhile_of_stops hr]

/-- Skipping gaps cuts them off. -/
theorem skipGaps_spec (s : List Char) :
    ∃ g, MayGaps g ∧ s = g ++ skipGaps s ∧ StopsAt isGap (skipGaps s) :=
  ⟨s.takeWhile isGap, List.all_eq_true.1 List.all_takeWhile,
    List.takeWhile_append_dropWhile.symm, stopsAt_dropWhile isGap s⟩

theorem afterGaps?_eq_some_iff {s r : List Char} :
    afterGaps? s = some r ↔ ∃ g, Gaps g ∧ s = g ++ r ∧ StopsAt isGap r := by
  constructor
  · intro h
    cases s with
    | nil => exact absurd h (by simp [afterGaps?])
    | cons c s =>
      rw [afterGaps?] at h
      split at h
      · rename_i hc
        obtain rfl := Option.some.inj h
        obtain ⟨g, hg, hs, hstop⟩ := skipGaps_spec s
        refine ⟨c :: g, ⟨List.cons_ne_nil _ _, ?_⟩, by rw [List.cons_append, ← hs], hstop⟩
        intro d hd
        rcases List.mem_cons.1 hd with rfl | hd
        · exact hc
        · exact hg d hd
      · exact absurd h (by simp)
  · rintro ⟨g, ⟨hne, hg⟩, rfl, hr⟩
    obtain ⟨c, g, rfl⟩ := List.exists_cons_of_ne_nil hne
    rw [List.cons_append, afterGaps?, if_pos (hg c List.mem_cons_self),
      skipGaps_append (fun d hd => hg d (List.mem_cons_of_mem _ hd)) hr]

theorem afterWord?_eq_some_iff : ∀ {word s r : List Char},
    afterWord? word s = some r ↔ ∃ t, Spells word t ∧ s = t ++ r
  | [], s, r => by
    simp [afterWord?, Spells]
  | w :: ws, [], r => by
    constructor
    · intro h
      exact absurd h (by simp [afterWord?])
    · rintro ⟨t, ht, hs⟩
      obtain ⟨rfl, -⟩ := List.append_eq_nil_iff.1 hs.symm
      exact absurd ht (by simp [Spells])
  | w :: ws, c :: s, r => by
    rw [afterWord?]
    split
    · rename_i hc
      rw [afterWord?_eq_some_iff]
      constructor
      · rintro ⟨t, ht, rfl⟩
        exact ⟨c :: t, by rw [Spells, List.map_cons, hc, ht], rfl⟩
      · rintro ⟨t, ht, hs⟩
        cases t with
        | nil => exact absurd ht (by simp [Spells])
        | cons d t =>
          obtain ⟨rfl, rfl⟩ := List.cons.inj hs
          exact ⟨t, (List.cons.inj ht).2, rfl⟩
    · rename_i hc
      constructor
      · intro h
        exact absurd h (by simp)
      · rintro ⟨t, ht, hs⟩
        cases t with
        | nil => exact absurd ht (by simp [Spells])
        | cons d t =>
          obtain ⟨rfl, rfl⟩ := List.cons.inj hs
          exact absurd (List.cons.inj ht).1 hc

/-- The first letter of a word in letters of either case. -/
theorem spells_cons {w : Char} {ws t : List Char} (h : Spells (w :: ws) t) :
    ∃ c t', t = c :: t' ∧ c.toUpper = w := by
  cases t with
  | nil => exact absurd h (by simp [Spells])
  | cons c t => exact ⟨c, t, rfl, (List.cons.inj h).1⟩

theorem isGap_of_toUpper {c : Char} (h : isGap c.toUpper = false) : isGap c = false := by
  cases hc : isGap c with
  | false => rfl
  | true => rcases isGap_eq hc with rfl | rfl | rfl | rfl <;> exact absurd h (by decide)

/-- A word does not begin with a gap. -/
theorem stopsAt_of_spells {w : Char} {ws t r : List Char} (h : Spells (w :: ws) t)
    (hw : isGap w = false) : StopsAt isGap (t ++ r) := by
  obtain ⟨c, t, rfl, hc⟩ := spells_cons h
  rw [← hc] at hw
  exact stopsAt_cons.2 (isGap_of_toUpper hw)

theorem stopsAt_of_spells_conjunction {k : Conjunction} {t r : List Char}
    (h : Spells k.word.toList t) : StopsAt isGap (t ++ r) := by
  cases k with
  | and => exact stopsAt_of_spells (w := 'A') h (by decide)
  | or => exact stopsAt_of_spells (w := 'O') h (by decide)

/-! ### Connectives -/

/-- A connective is read with all the gaps after it. -/
theorem readConnective?_eq_some_iff {s r : List Char} {k : Conjunction} :
    readConnective? s = some (k, r) ↔ ∃ t, ConnectiveText t k ∧ s = t ++ r ∧ StopsAt isGap r := by
  constructor
  · intro h
    rw [readConnective?] at h
    split at h
    · exact absurd h (by simp)
    · rename_i s' hs
      obtain ⟨g, hg, rfl, -⟩ := afterGaps?_eq_some_iff.1 hs
      split at h
      · rename_i r' hand
        obtain ⟨w, hw, rfl⟩ := afterWord?_eq_some_iff.1 hand
        obtain ⟨r'', hafter, heq⟩ := Option.map_eq_some_iff.1 h
        obtain ⟨rfl, rfl⟩ := Prod.mk.inj heq
        obtain ⟨g', hg', rfl, hstop⟩ := afterGaps?_eq_some_iff.1 hafter
        exact ⟨g ++ (w ++ g'), .mk hg hw hg', by simp, hstop⟩
      · obtain ⟨r'', hbind, heq⟩ := Option.map_eq_some_iff.1 h
        obtain ⟨rfl, rfl⟩ := Prod.mk.inj heq
        obtain ⟨r', hor, hafter⟩ := Option.bind_eq_some_iff.1 hbind
        obtain ⟨w, hw, rfl⟩ := afterWord?_eq_some_iff.1 hor
        obtain ⟨g', hg', rfl, hstop⟩ := afterGaps?_eq_some_iff.1 hafter
        exact ⟨g ++ (w ++ g'), .mk hg hw hg', by simp, hstop⟩
  · rintro ⟨t, ⟨hg, hw, hg'⟩, rfl, hstop⟩
    rename_i g w g'
    have hgaps : afterGaps? (g ++ (w ++ g') ++ r) = some (w ++ (g' ++ r)) :=
      afterGaps?_eq_some_iff.2
        ⟨g, hg, by simp, stopsAt_of_spells_conjunction hw⟩
    have hword : ∀ {word : List Char}, Spells word w →
        afterWord? word (w ++ (g' ++ r)) = some (g' ++ r) :=
      fun h => afterWord?_eq_some_iff.2 ⟨w, h, rfl⟩
    have hafter : afterGaps? (g' ++ r) = some r := afterGaps?_eq_some_iff.2 ⟨g', hg', rfl, hstop⟩
    rw [readConnective?, hgaps]
    cases k with
    | and =>
      have := @hword ['A', 'N', 'D'] hw
      simp only [this, hafter, Option.map_some]
    | or =>
      have hand : afterWord? ['A', 'N', 'D'] (w ++ (g' ++ r)) = none := by
        cases w with
        | nil => exact absurd hw (by simp [Spells, Conjunction.word])
        | cons c w =>
          have hc : c.toUpper = 'O' := (List.cons.inj hw).1
          simp [afterWord?, hc]
      have := @hword ['O', 'R'] hw
      simp only [hand, this, Option.bind_some, hafter, Option.map_some]

theorem isSome_readConnective?_iff {s : List Char} :
    (readConnective? s).isSome = true ↔ BeginsConnective s := by
  constructor
  · intro h
    obtain ⟨⟨k, r⟩, h⟩ := Option.isSome_iff_exists.1 h
    obtain ⟨t, ht, rfl, -⟩ := readConnective?_eq_some_iff.1 h
    exact ⟨t, k, r, ht, rfl⟩
  · rintro ⟨t, k, r, ht, rfl⟩
    obtain ⟨hg, hw, hg'⟩ := ht
    rename_i g w g'
    -- the reader takes the gaps at the start of the rest as well
    obtain ⟨g'', hg'', hr, hstop⟩ := skipGaps_spec r
    have hlong : Gaps (g' ++ g'') := by
      refine ⟨List.append_ne_nil_of_left_ne_nil hg'.1 _, fun c hc => ?_⟩
      rcases List.mem_append.1 hc with hc | hc
      · exact hg'.2 c hc
      · exact hg'' c hc
    refine Option.isSome_iff_exists.2 ⟨(k, skipGaps r), readConnective?_eq_some_iff.2
      ⟨g ++ (w ++ (g' ++ g'')), .mk hg hw hlong, ?_, hstop⟩⟩
    simp only [List.append_assoc]
    rw [← hr]

/-- A value is cut before the first connective. -/
theorem cutAtConnective_eq_iff : ∀ {s a b : List Char}, cutAtConnective s = (a, b) ↔
    s = a ++ b ∧ NoConnectiveIn a b ∧ (b = [] ∨ BeginsConnective b)
  | [], a, b => by
    rw [cutAtConnective, Prod.mk.injEq]
    constructor
    · rintro ⟨rfl, rfl⟩
      refine ⟨rfl, fun x y hxy hy => ?_, Or.inl rfl⟩
      exact absurd (List.append_eq_nil_iff.1 hxy.symm).2 hy
    · rintro ⟨h, -, -⟩
      obtain ⟨rfl, rfl⟩ := List.append_eq_nil_iff.1 h.symm
      exact ⟨rfl, rfl⟩
  | c :: s, a, b => by
    rw [cutAtConnective]
    split
    · rename_i hbegins
      rw [isSome_readConnective?_iff] at hbegins
      constructor
      · intro h
        obtain ⟨rfl, rfl⟩ := Prod.mk.inj h
        refine ⟨rfl, fun x y hxy hy => ?_, Or.inr hbegins⟩
        exact absurd (List.append_eq_nil_iff.1 hxy.symm).2 hy
      · rintro ⟨h, hinside, -⟩
        cases a with
        | nil => rw [h]; rfl
        | cons d a => exact absurd (h ▸ hbegins) (hinside [] (d :: a) rfl (List.cons_ne_nil _ _))
    · rename_i hbegins
      rw [isSome_readConnective?_iff] at hbegins
      obtain ⟨hs, hinside, hafter⟩ :=
        (cutAtConnective_eq_iff (s := s)).1 (Prod.eta (cutAtConnective s)).symm
      constructor
      · intro h
        obtain ⟨rfl, rfl⟩ := Prod.mk.inj h
        refine ⟨by rw [List.cons_append, ← hs], fun x y hxy hy => ?_, hafter⟩
        cases x with
        | nil =>
          rw [List.nil_append] at hxy
          rw [← hxy, List.cons_append, ← hs]
          exact hbegins
        | cons d x => exact hinside x y (List.cons.inj hxy).2 hy
      · rintro ⟨h, hinside', hafter'⟩
        cases a with
        | nil =>
          rw [List.nil_append] at h
          subst h
          exact absurd (hafter'.resolve_left (List.cons_ne_nil _ _)) hbegins
        | cons d a =>
          obtain ⟨rfl, htail⟩ := List.cons.inj h
          have hcut : cutAtConnective s = (a, b) := cutAtConnective_eq_iff.2 ⟨htail,
            fun x y hxy hy => hinside' (c :: x) y (by rw [List.cons_append, hxy]) hy, hafter'⟩
          rw [hcut]

theorem cutAtConnective_spec (s : List Char) :
    s = (cutAtConnective s).1 ++ (cutAtConnective s).2 ∧
      NoConnectiveIn (cutAtConnective s).1 (cutAtConnective s).2 ∧
      ((cutAtConnective s).2 = [] ∨ BeginsConnective (cutAtConnective s).2) :=
  cutAtConnective_eq_iff.1 (Prod.eta _).symm

/-! ### Operators -/

theorem afterLoneWord?_eq_some_iff {word s r : List Char} :
    afterLoneWord? word s = some r ↔ ∃ t, Spells word t ∧ s = t ++ r ∧ GapNext r := by
  constructor
  · intro h
    rw [afterLoneWord?] at h
    split at h
    · rename_i c r' hword
      split at h
      · rename_i hc
        obtain rfl := Option.some.inj h
        obtain ⟨t, ht, rfl⟩ := afterWord?_eq_some_iff.1 hword
        exact ⟨t, ht, rfl, c, r', rfl, hc⟩
      · exact absurd h (by simp)
    · exact absurd h (by simp)
  · rintro ⟨t, ht, rfl, c, r', rfl, hc⟩
    rw [afterLoneWord?, afterWord?_eq_some_iff.2 ⟨t, ht, rfl⟩]
    exact if_pos hc

theorem afterNotIn?_eq_some_iff {s r : List Char} : afterNotIn? s = some r ↔
    ∃ n g i, Spells ['N', 'O', 'T'] n ∧ Gaps g ∧ Spells ['I', 'N'] i ∧
      s = n ++ (g ++ (i ++ r)) ∧ GapNext r := by
  constructor
  · intro h
    obtain ⟨s₁, h, hin⟩ := Option.bind_eq_some_iff.1 h
    obtain ⟨s₂, hnot, hgaps⟩ := Option.bind_eq_some_iff.1 h
    obtain ⟨n, hn, rfl⟩ := afterWord?_eq_some_iff.1 hnot
    obtain ⟨g, hg, rfl, -⟩ := afterGaps?_eq_some_iff.1 hgaps
    obtain ⟨i, hi, rfl, hr⟩ := afterLoneWord?_eq_some_iff.1 hin
    exact ⟨n, g, i, hn, hg, hi, rfl, hr⟩
  · rintro ⟨n, g, i, hn, hg, hi, rfl, hr⟩
    have hgaps : afterGaps? (g ++ (i ++ r)) = some (i ++ r) :=
      afterGaps?_eq_some_iff.2 ⟨g, hg, rfl, stopsAt_of_spells hi (by decide)⟩
    rw [afterNotIn?, afterWord?_eq_some_iff.2 ⟨n, hn, rfl⟩, Option.bind_some, hgaps,
      Option.bind_some]
    exact afterLoneWord?_eq_some_iff.2 ⟨i, hi, rfl, hr⟩

/-- A word does not begin a text whose first letter is another one. -/
theorem afterWord?_eq_none {w c : Char} {ws s : List Char} (h : c.toUpper ≠ w) :
    afterWord? (w :: ws) (c :: s) = none := by
  rw [afterWord?, if_neg h]

theorem afterLoneWord?_eq_none {w c : Char} {ws s : List Char} (h : c.toUpper ≠ w) :
    afterLoneWord? (w :: ws) (c :: s) = none := by
  rw [afterLoneWord?, afterWord?_eq_none h]

theorem afterNotIn?_eq_none {c : Char} {s : List Char} (h : c.toUpper ≠ 'N') :
    afterNotIn? (c :: s) = none := by
  rw [afterNotIn?, afterWord?_eq_none h]
  rfl

/-- A sign of one character is the longest that fits when no sign of two begins with it and with
what follows. -/
theorem longest_singleton {c : Char} {s : List Char}
    (h : ∀ d t, s = d :: t → ∀ u ∈ signs, u.1 ≠ [c, d]) :
    ∀ u ∈ signs, u.1 <+: c :: s → u.1.length ≤ 1 := by
  intro u hu hp
  obtain ⟨sign, op⟩ := u
  match sign, s, h, hu, hp with
  | [], _, _, _, _ => exact Nat.zero_le 1
  | [_], _, _, _, _ => exact Nat.le_refl 1
  | [_, _], [], _, _, hp => exact absurd hp (by simp)
  | [a, b], d :: t, h, hu, hp =>
    simp only [List.cons_prefix_cons] at hp
    obtain ⟨rfl, rfl, -⟩ := hp
    exact absurd rfl (h b t rfl _ hu)
  | a :: b :: d :: t, _, _, hu, _ => exact absurd hu (by simp [signs])

theorem length_le_two {s : List Char} : ∀ u ∈ signs, u.1 <+: s → u.1.length ≤ 2 := by
  have : ∀ u ∈ signs, u.1.length ≤ 2 := by decide
  exact fun u hu _ => this u hu

/-- Of the signs that fit, the longest is read. -/
theorem readSign?_eq_some_iff {s r : List Char} {op : Operator} : readSign? s = some (op, r) ↔
    ∃ t, (t, op) ∈ signs ∧ s = t ++ r ∧ ∀ u ∈ signs, u.1 <+: s → u.1.length ≤ t.length := by
  constructor
  · intro h
    rw [readSign?.eq_def] at h
    split at h
    · obtain ⟨rfl, rfl⟩ := Prod.mk.inj (Option.some.inj h)
      exact ⟨['>', '='], by decide, rfl, length_le_two⟩
    · obtain ⟨rfl, rfl⟩ := Prod.mk.inj (Option.some.inj h)
      exact ⟨['<', '='], by decide, rfl, length_le_two⟩
    · obtain ⟨rfl, rfl⟩ := Prod.mk.inj (Option.some.inj h)
      exact ⟨['!', '='], by decide, rfl, length_le_two⟩
    · obtain ⟨rfl, rfl⟩ := Prod.mk.inj (Option.some.inj h)
      exact ⟨['<', '>'], by decide, rfl, length_le_two⟩
    · obtain ⟨rfl, rfl⟩ := Prod.mk.inj (Option.some.inj h)
      exact ⟨['='], by decide, rfl, longest_singleton (by simp [signs])⟩
    · rename_i hge
      obtain ⟨rfl, rfl⟩ := Prod.mk.inj (Option.some.inj h)
      refine ⟨['>'], by decide, rfl, longest_singleton fun d t hs => ?_⟩
      have : d ≠ '=' := fun hd => hge t (hd ▸ hs)
      simpa [signs] using this.symm
    · rename_i hle hne
      obtain ⟨rfl, rfl⟩ := Prod.mk.inj (Option.some.inj h)
      refine ⟨['<'], by decide, rfl, longest_singleton fun d t hs => ?_⟩
      have h₁ : d ≠ '=' := fun hd => hle t (hd ▸ hs)
      have h₂ : d ≠ '>' := fun hd => hne t (hd ▸ hs)
      simpa [signs] using ⟨h₁.symm, h₂.symm⟩
    · exact absurd h (by simp)
  · rintro ⟨t, ht, rfl, hlongest⟩
    simp only [signs, List.mem_cons, List.not_mem_nil, or_false, Prod.mk.injEq] at ht
    rcases ht with ⟨rfl, rfl⟩ | ⟨rfl, rfl⟩ | ⟨rfl, rfl⟩ | ⟨rfl, rfl⟩ | ⟨rfl, rfl⟩ | ⟨rfl, rfl⟩ |
      ⟨rfl, rfl⟩
    · rfl
    · rfl
    · rfl
    · rfl
    · rfl
    · cases r with
      | nil => rfl
      | cons d r =>
        have hd : d ≠ '=' := by
          rintro rfl
          exact absurd (hlongest (['>', '='], .ge) (by decide) (by simp)) (by decide)
        simp [readSign?, hd]
    · cases r with
      | nil => rfl
      | cons d r =>
        have h₁ : d ≠ '=' := by
          rintro rfl
          exact absurd (hlongest (['<', '='], .le) (by decide) (by simp)) (by decide)
        have h₂ : d ≠ '>' := by
          rintro rfl
          exact absurd (hlongest (['<', '>'], .ne) (by decide) (by simp)) (by decide)
        simp [readSign?, h₁, h₂]

theorem sign_ne_nil : ∀ u ∈ signs, ∃ c t, u.1 = c :: t ∧ c.toUpper ≠ 'N' ∧ c.toUpper ≠ 'L' ∧
    c.toUpper ≠ 'I' := by
  intro u hu
  simp only [signs, List.mem_cons, List.not_mem_nil, or_false] at hu
  rcases hu with rfl | rfl | rfl | rfl | rfl | rfl | rfl <;> exact ⟨_, _, rfl, by decide⟩

theorem readOperator?_eq_some_iff {s r : List Char} {op : Operator} :
    readOperator? s = some (op, r) ↔ ∃ t, OperatorText t op r ∧ s = t ++ r := by
  constructor
  · intro h
    rw [readOperator?] at h
    split at h
    · rename_i hnot
      obtain ⟨rfl, rfl⟩ := Prod.mk.inj (Option.some.inj h)
      obtain ⟨n, g, i, hn, hg, hi, rfl, hr⟩ := afterNotIn?_eq_some_iff.1 hnot
      exact ⟨n ++ (g ++ i), .notIn hn hg hi hr, by simp⟩
    · split at h
      · rename_i hlike
        obtain ⟨rfl, rfl⟩ := Prod.mk.inj (Option.some.inj h)
        obtain ⟨t, ht, rfl, hr⟩ := afterLoneWord?_eq_some_iff.1 hlike
        exact ⟨t, .word (Or.inl rfl) ht hr, rfl⟩
      · split at h
        · rename_i hin
          obtain ⟨rfl, rfl⟩ := Prod.mk.inj (Option.some.inj h)
          obtain ⟨t, ht, rfl, hr⟩ := afterLoneWord?_eq_some_iff.1 hin
          exact ⟨t, .word (Or.inr rfl) ht hr, rfl⟩
        · obtain ⟨t, ht, rfl, hlongest⟩ := readSign?_eq_some_iff.1 h
          exact ⟨t, .sign ht hlongest, rfl⟩
  · rintro ⟨t, ht, rfl⟩
    -- the first letter tells the readers of words apart
    cases ht with
    | sign mem longest =>
      obtain ⟨c, t', ht', hN, hL, hI⟩ := sign_ne_nil _ mem
      simp only at ht'
      subst ht'
      rw [readOperator?, List.cons_append, afterNotIn?_eq_none hN]
      simp only [afterLoneWord?_eq_none hL, afterLoneWord?_eq_none hI]
      exact readSign?_eq_some_iff.2 ⟨c :: t', mem, rfl, longest⟩
    | word kind word after =>
      rcases kind with rfl | rfl
      · obtain ⟨c, t', rfl, hc⟩ := spells_cons word
        have hlike : afterLoneWord? ['L', 'I', 'K', 'E'] (c :: t' ++ r) = some r :=
          afterLoneWord?_eq_some_iff.2 ⟨c :: t', word, rfl, after⟩
        rw [readOperator?, hlike, List.cons_append, afterNotIn?_eq_none (by rw [hc]; decide)]
      · obtain ⟨c, t', rfl, hc⟩ := spells_cons word
        have hin : afterLoneWord? ['I', 'N'] (c :: t' ++ r) = some r :=
          afterLoneWord?_eq_some_iff.2 ⟨c :: t', word, rfl, after⟩
        rw [readOperator?, hin, List.cons_append, afterNotIn?_eq_none (by rw [hc]; decide),
          afterLoneWord?_eq_none (by rw [hc]; decide)]
    | notIn hnot between isIn after =>
      rename_i n g i
      have hnotIn : afterNotIn? (n ++ (g ++ i) ++ r) = some r :=
        afterNotIn?_eq_some_iff.2 ⟨n, g, i, hnot, between, isIn, by simp, after⟩
      rw [readOperator?, hnotIn]

/-! ### Values -/

theorem cutAtQuote?_eq_some_iff {q : Char} : ∀ {s v r : List Char},
    cutAtQuote? q s = some (v, r) ↔ s = v ++ q :: r ∧ q ∉ v
  | [], v, r => by
    simp [cutAtQuote?]
  | c :: s, v, r => by
    rw [cutAtQuote?]
    split
    · rename_i hc
      subst hc
      constructor
      · intro h
        obtain ⟨rfl, rfl⟩ := Prod.mk.inj (Option.some.inj h)
        exact ⟨rfl, List.not_mem_nil⟩
      · rintro ⟨h, hv⟩
        cases v with
        | nil => rw [(List.cons.inj h).2]
        | cons d v => exact absurd ((List.cons.inj h).1 ▸ List.mem_cons_self) hv
    · rename_i hc
      constructor
      · intro h
        obtain ⟨⟨v', r'⟩, hcut, heq⟩ := Option.map_eq_some_iff.1 h
        obtain ⟨rfl, rfl⟩ := Prod.mk.inj heq
        obtain ⟨rfl, hv⟩ := cutAtQuote?_eq_some_iff.1 hcut
        exact ⟨rfl, by simpa [List.mem_cons, Ne.symm hc] using hv⟩
      · rintro ⟨h, hv⟩
        cases v with
        | nil => exact absurd (List.cons.inj h).1 hc
        | cons d v =>
          obtain ⟨rfl, hs⟩ := List.cons.inj h
          have hcut : cutAtQuote? q s = some (v, r) :=
            cutAtQuote?_eq_some_iff.2 ⟨hs, fun hmem => hv (List.mem_cons_of_mem _ hmem)⟩
          rw [hcut, Option.map_some]

theorem readValue_eq_ok_iff {s v r : List Char} (hs : StopsAt isGap s) :
    readValue s = .ok (v, r) ↔ ∃ t, ValueText t v r ∧ s = t ++ r := by
  constructor
  · intro h
    rw [readValue.eq_def] at h
    split at h
    · exact absurd h (by simp)
    · rename_i c s'
      split at h
      · rename_i hquote
        split at h
        · rename_i v' r' hcut
          obtain ⟨rfl, rfl⟩ := Prod.mk.inj (Except.ok.inj h)
          obtain ⟨rfl, hv⟩ := cutAtQuote?_eq_some_iff.1 hcut
          exact ⟨c :: (v' ++ [c]), .quoted hquote hv, by simp⟩
        · exact absurd h (by simp)
      · rename_i hquote
        split at h
        · exact absurd h (by simp)
        · rename_i hne
          obtain ⟨rfl, rfl⟩ := Prod.mk.inj (Except.ok.inj h)
          obtain ⟨hcut, hinside, hafter⟩ := cutAtConnective_spec (c :: s')
          refine ⟨_, .bare ?_ hinside hafter hne, hcut⟩
          intro d hd
          have hdc : d = c := by
            have := congrArg List.head? hcut
            rw [List.head?_append, Option.mem_def.1 hd] at this
            exact (Option.some.inj this).symm
          rw [hdc]
          exact ⟨by simpa using hquote, stopsAt_cons.1 hs⟩
  · rintro ⟨t, ht, rfl⟩
    cases ht with
    | @quoted q _ _ quote inside =>
      have hcut : cutAtQuote? q (v ++ [q] ++ r) = some (v, r) :=
        cutAtQuote?_eq_some_iff.2 ⟨by simp, inside⟩
      rw [List.cons_append, readValue, if_pos quote, hcut]
    | bare first inside after nonempty =>
      have hcut : cutAtConnective (t ++ r) = (t, r) := cutAtConnective_eq_iff.2 ⟨rfl, inside, after⟩
      cases t with
      | nil => exact absurd rfl nonempty
      | cons c t =>
        have hquote : ¬ isQuote c = true := by simp [(first c rfl).1]
        rw [List.cons_append] at hcut ⊢
        rw [readValue, if_neg hquote, hcut]
        obtain ⟨d, v, hv⟩ := List.exists_cons_of_ne_nil nonempty
        simp only [hv]

/-- A value does not begin with a gap. -/
theorem ValueText.stopsAt {t v r : List Char} (h : ValueText t v r) : StopsAt isGap (t ++ r) := by
  cases h with
  | @quoted q _ _ quote _ =>
    refine stopsAt_cons.2 ?_
    cases hq : isGap q with
    | false => rfl
    | true => rcases isGap_eq hq with rfl | rfl | rfl | rfl <;> exact absurd quote (by decide)
  | bare first _ _ nonempty =>
    cases t with
    | nil => exact absurd rfl nonempty
    | cons c t => exact stopsAt_cons.2 (first c rfl).2

/-- An operator does not begin with a gap. -/
theorem OperatorText.stopsAt {t r : List Char} {op : Operator} (h : OperatorText t op r) :
    StopsAt isGap (t ++ r) := by
  cases h with
  | sign mem _ =>
    simp only [signs, List.mem_cons, List.not_mem_nil, or_false, Prod.mk.injEq] at mem
    rcases mem with ⟨rfl, -⟩ | ⟨rfl, -⟩ | ⟨rfl, -⟩ | ⟨rfl, -⟩ | ⟨rfl, -⟩ | ⟨rfl, -⟩ | ⟨rfl, -⟩ <;>
      exact stopsAt_cons.2 (by decide)
  | word kind word _ =>
    rcases kind with rfl | rfl <;> exact stopsAt_of_spells word (by decide)
  | notIn hnot _ _ _ =>
    rw [List.append_assoc]
    exact stopsAt_of_spells hnot (by decide)

/-! ### Conditions -/

/-- The parts that a condition is read from. -/
theorem readCondition_eq_ok {s r : List Char} {c : Condition} : readCondition s = .ok (c, r) ↔
    ∃ op s' v, s.takeWhile isFieldChar ≠ [] ∧
      readOperator? (skipGaps (s.dropWhile isFieldChar)) = some (op, s') ∧
      readValue (skipGaps s') = .ok (v, r) ∧
      c = .single (String.ofList (s.takeWhile isFieldChar)) op (String.ofList v) := by
  rw [readCondition]
  simp only [bind, Except.bind, pure, Except.pure, throw, throwThe, MonadExceptOf.throw]
  constructor
  · intro h
    split at h
    · exact absurd h (by simp)
    · rename_i hfield
      split at h
      · rename_i op s' hop
        split at h
        · exact absurd h (by simp)
        · rename_i v hv
          obtain ⟨rfl, rfl⟩ := Prod.mk.inj (Except.ok.inj h)
          exact ⟨op, s', v.1, by simpa using hfield, hop, hv, rfl⟩
      · exact absurd h (by simp)
  · rintro ⟨op, s', v, hfield, hop, hv, rfl⟩
    rw [if_neg (by simpa using hfield), hop]
    simp only [hv]

theorem readCondition_eq_ok_iff {s r : List Char} {c : Condition} :
    readCondition s = .ok (c, r) ↔ ∃ t, ConditionText t c r ∧ s = t ++ r := by
  rw [readCondition_eq_ok]
  constructor
  · rintro ⟨op, s', v, hfield, hop, hv, rfl⟩
    obtain ⟨g, hg, hs₁, -⟩ := skipGaps_spec (s.dropWhile isFieldChar)
    obtain ⟨o, ho, hs₂⟩ := readOperator?_eq_some_iff.1 hop
    obtain ⟨g', hg', hs₃, hstop⟩ := skipGaps_spec s'
    obtain ⟨t, ht, hs₄⟩ := (readValue_eq_ok_iff hstop).1 hv
    rw [hs₄] at hs₃
    subst hs₃
    rw [hs₂] at hs₁
    refine ⟨_, .mk hfield (List.all_eq_true.1 List.all_takeWhile) ?_ hg ho hg' ht, ?_⟩
    · rw [← hs₁]
      exact stopsAt_dropWhile isFieldChar s
    · simp only [List.append_assoc]
      rw [← hs₁, List.takeWhile_append_dropWhile]
  · rintro ⟨_, ⟨nonempty, field, longest, between, operator, between', value⟩, rfl⟩
    rename_i f g o g' t v op
    have hfield : (f ++ (g ++ (o ++ (g' ++ t))) ++ r).takeWhile isFieldChar = f := by
      simp only [List.append_assoc]
      rw [List.takeWhile_append_of_pos field, takeWhile_of_stops longest, List.append_nil]
    have hrest : skipGaps ((f ++ (g ++ (o ++ (g' ++ t))) ++ r).dropWhile isFieldChar) =
        o ++ (g' ++ (t ++ r)) := by
      simp only [List.append_assoc]
      rw [List.dropWhile_append_of_pos field, dropWhile_of_stops longest,
        skipGaps_append between operator.stopsAt]
    rw [hfield, hrest]
    refine ⟨op, g' ++ (t ++ r), v, nonempty, readOperator?_eq_some_iff.2 ⟨o, operator, rfl⟩, ?_,
      rfl⟩
    rw [skipGaps_append between' value.stopsAt]
    exact (readValue_eq_ok_iff value.stopsAt).2 ⟨t, value, rfl⟩

/-- A condition does not begin with a gap. -/
theorem ConditionText.stopsAt {t r s : List Char} {c : Condition} (h : ConditionText t c r) :
    StopsAt isGap (t ++ s) := by
  obtain ⟨nonempty, field, -, -, -, -, -⟩ := h
  rename_i f _ _ _ _ _ _
  obtain ⟨c, f', rfl⟩ := List.exists_cons_of_ne_nil nonempty
  refine stopsAt_cons.2 ?_
  cases hc : isGap c with
  | false => rfl
  | true =>
    have := field c List.mem_cons_self
    rcases isGap_eq hc with rfl | rfl | rfl | rfl <;> exact absurd this (by decide)

/-! ### Filters -/

theorem FilterText.stopsAt {s : List Char} {cs : List Condition} (h : FilterText s cs) :
    StopsAt isGap s := by
  cases h with
  | last condition => simpa using condition.stopsAt (s := [])
  | more condition _ _ => exact condition.stopsAt

theorem ConditionsText.stopsAt {p r : List Char} {cs : List Condition}
    (h : ConditionsText p cs r) : StopsAt isGap (p ++ r) := by
  cases h with
  | last condition => exact condition.stopsAt
  | more condition _ _ =>
    rw [List.append_assoc]
    exact condition.stopsAt

/-- A filter is conditions up to the end of the text. -/
theorem conditionsText_nil_iff {s : List Char} {cs : List Condition} :
    ConditionsText s cs [] ↔ FilterText s cs := by
  constructor
  · intro h
    generalize hnext : ([] : List Char) = next at h
    induction h with
    | last condition =>
      subst hnext
      exact .last condition
    | more condition connective _ ih =>
      subst hnext
      rw [List.append_nil] at condition
      exact .more condition connective (ih rfl)
  · intro h
    induction h with
    | last condition => exact .last condition
    | more condition connective _ ih =>
      exact .more (by rwa [List.append_nil]) connective ih

theorem beginsCondition_iff {s : List Char} :
    BeginsCondition s ↔ ∃ c r, readCondition s = .ok (c, r) := by
  constructor
  · rintro ⟨t, c, r, ht, rfl⟩
    exact ⟨c, r, readCondition_eq_ok_iff.2 ⟨t, ht, rfl⟩⟩
  · rintro ⟨c, r, h⟩
    obtain ⟨t, ht, rfl⟩ := readCondition_eq_ok_iff.1 h
    exact ⟨t, c, r, ht, rfl⟩

/-- A text goes on when a connective and then a condition are read from it. -/
theorem goesOn_iff {r : List Char} : GoesOn r ↔
    ∃ k s c s', readConnective? r = some (k, s) ∧ readCondition s = .ok (c, s') := by
  constructor
  · rintro ⟨w, k, s, hw, rfl, t, c, s', ht, rfl⟩
    exact ⟨k, t ++ s', c, s', readConnective?_eq_some_iff.2 ⟨w, hw, rfl, ht.stopsAt⟩,
      readCondition_eq_ok_iff.2 ⟨t, ht, rfl⟩⟩
  · rintro ⟨k, s, c, s', hk, hc⟩
    obtain ⟨w, hw, rfl, -⟩ := readConnective?_eq_some_iff.1 hk
    exact ⟨w, k, s, hw, rfl, beginsCondition_iff.2 ⟨c, s', hc⟩⟩

/-- Nothing is read from a text that does not go on. -/
theorem readMore_of_not_goesOn {r : List Char} (h : ¬GoesOn r) : ∀ n, readMore n r = ([], r)
  | 0 => rfl
  | n + 1 => by
    rw [readMore]
    cases hk : readConnective? r with
    | none => rfl
    | some x =>
      obtain ⟨k, s⟩ := x
      cases hc : readCondition s with
      | error fault => simp only [hc]
      | ok x => exact absurd (goesOn_iff.2 ⟨k, s, x.1, x.2, hk, hc⟩) h

theorem length_of_readConnective? {r s : List Char} {k : Conjunction}
    (h : readConnective? r = some (k, s)) : s.length < r.length := by
  obtain ⟨w, ⟨⟨hne, -⟩, -, -⟩, rfl, -⟩ := readConnective?_eq_some_iff.1 h
  have hpos := List.length_pos_iff.2 hne
  simp only [List.length_append]
  omega

theorem length_of_readCondition {s r : List Char} {c : Condition}
    (h : readCondition s = .ok (c, r)) : r.length ≤ s.length := by
  obtain ⟨t, -, rfl⟩ := readCondition_eq_ok_iff.1 h
  simp only [List.length_append]
  omega

/-- As many steps as a text has characters are enough to read conditions until it goes on no
longer. -/
theorem conditionsText_of_readMore : ∀ {n : Nat} {s r : List Char} {c : Condition},
    readCondition s = .ok (c, r) → r.length ≤ n →
      ∃ p, s = p ++ (readMore n r).2 ∧
        ConditionsText p (chain c (readMore n r).1) (readMore n r).2 ∧ ¬GoesOn (readMore n r).2
  | n, s, r, c, hc, hn => by
    obtain ⟨t, ht, rfl⟩ := readCondition_eq_ok_iff.1 hc
    by_cases hgoes : GoesOn r
    · obtain ⟨k, s, d, r', hk, hd⟩ := goesOn_iff.1 hgoes
      have hlength := length_of_readConnective? hk
      have hlength' := length_of_readCondition hd
      obtain ⟨m, rfl⟩ : ∃ m, n = m + 1 := ⟨n - 1, by omega⟩
      obtain ⟨p, hp, hmore, hstop⟩ := conditionsText_of_readMore (n := m) hd (by omega)
      obtain ⟨w, hw, rfl, -⟩ := readConnective?_eq_some_iff.1 hk
      rw [readMore, hk]
      simp only [hd]
      rw [hp] at ht
      refine ⟨t ++ (w ++ p), ?_, .more ht hw hmore, hstop⟩
      simp only [List.append_assoc]
      rw [← hp]
    · rw [readMore_of_not_goesOn hgoes]
      exact ⟨t, rfl, .last ht, hgoes⟩
termination_by n => n

/-- What is left over is an end of the text. -/
theorem suffix_of_readMore : ∀ (n : Nat) (s : List Char), (readMore n s).2 <:+ s
  | 0, s => List.suffix_refl s
  | n + 1, s => by
    rw [readMore]
    split
    · exact List.suffix_refl s
    · rename_i k r hk
      split
      · exact List.suffix_refl s
      · rename_i c r' hc
        obtain ⟨w, -, rfl, -⟩ := readConnective?_eq_some_iff.1 hk
        obtain ⟨t, -, rfl⟩ := readCondition_eq_ok_iff.1 hc
        exact (suffix_of_readMore n r').trans
          ((List.suffix_append t r').trans (List.suffix_append w _))

/-- Conditions that a text begins with are read, and no others if it does not go on after them. -/
theorem readMore_of_conditionsText {p r : List Char} {cs : List Condition}
    (h : ConditionsText p cs r) : ∃ c s, readCondition (p ++ r) = .ok (c, s) ∧
      ∀ n, s.length ≤ n → (readMore n s).2 <:+ r ∧
        (¬GoesOn r → chain c (readMore n s).1 = cs ∧ (readMore n s).2 = r) := by
  induction h with
  | @last t next c condition =>
    refine ⟨c, next, readCondition_eq_ok_iff.2 ⟨t, condition, rfl⟩, fun n _ =>
      ⟨suffix_of_readMore n next, fun hstop => ?_⟩⟩
    rw [readMore_of_not_goesOn hstop]
    exact ⟨rfl, rfl⟩
  | @more t w s next c k cs condition connective rest ih =>
    obtain ⟨d, r, hd, hmore⟩ := ih
    refine ⟨c, w ++ (s ++ next), readCondition_eq_ok_iff.2 ⟨t, condition, by simp⟩, fun n hn => ?_⟩
    have hk : readConnective? (w ++ (s ++ next)) = some (k, s ++ next) :=
      readConnective?_eq_some_iff.2 ⟨w, connective, rfl, rest.stopsAt⟩
    have hlength := length_of_readConnective? hk
    have hlength' := length_of_readCondition hd
    obtain ⟨m, rfl⟩ : ∃ m, n = m + 1 := ⟨n - 1, by omega⟩
    obtain ⟨hsuffix, hall⟩ := hmore m (by omega)
    rw [readMore, hk]
    simp only [hd]
    refine ⟨hsuffix, fun hstop => ?_⟩
    obtain ⟨hcs, hrest⟩ := hall hstop
    exact ⟨by rw [chain, hcs]; rfl, hrest⟩

theorem readConditions_eq_ok {s r : List Char} {cs : List Condition} :
    readConditions s = .ok (cs, r) ↔ ∃ c r', readCondition s = .ok (c, r') ∧
      cs = chain c (readMore r'.length r').1 ∧ r = (readMore r'.length r').2 := by
  rw [readConditions]
  simp only [bind, Except.bind, pure, Except.pure]
  constructor
  · intro h
    split at h
    · exact absurd h (by simp)
    · rename_i v hv
      obtain ⟨rfl, rfl⟩ := Prod.mk.inj (Except.ok.inj h)
      exact ⟨v.1, v.2, hv, rfl, rfl⟩
  · rintro ⟨c, r', hc, rfl, rfl⟩
    rw [hc]

/-- Conditions are read from a text as long as it goes on, and no longer. -/
theorem readConditions_eq_ok_iff {s r : List Char} {cs : List Condition} :
    readConditions s = .ok (cs, r) ↔ ∃ p, s = p ++ r ∧ ConditionsText p cs r ∧ ¬GoesOn r := by
  rw [readConditions_eq_ok]
  constructor
  · rintro ⟨c, r', hc, rfl, rfl⟩
    exact conditionsText_of_readMore hc (Nat.le_refl _)
  · rintro ⟨p, rfl, h, hstop⟩
    obtain ⟨c, r', hc, hmore⟩ := readMore_of_conditionsText h
    obtain ⟨hcs, hrest⟩ := (hmore r'.length (Nat.le_refl _)).2 hstop
    exact ⟨c, r', hc, hcs.symm, hrest.symm⟩

theorem not_goesOn_nil : ¬GoesOn [] := by
  rintro ⟨w, k, s, ⟨⟨hne, -⟩, -, -⟩, hnil, -⟩
  simp [hne] at hnil

/-- Conditions are read to the end of a text exactly when it is a filter. -/
theorem readConditions_eq_ok_nil_iff {s : List Char} {cs : List Condition} :
    readConditions s = .ok (cs, []) ↔ FilterText s cs := by
  rw [readConditions_eq_ok_iff, ← conditionsText_nil_iff]
  constructor
  · rintro ⟨p, rfl, h, -⟩
    rwa [List.append_nil]
  · exact fun h => ⟨s, (List.append_nil s).symm, h, not_goesOn_nil⟩

theorem suffix_of_readConditions {s r : List Char} {cs : List Condition}
    (h : readConditions s = .ok (cs, r)) : r <:+ s := by
  obtain ⟨c, r', hc, -, rfl⟩ := readConditions_eq_ok.1 h
  obtain ⟨t, -, rfl⟩ := readCondition_eq_ok_iff.1 hc
  exact (suffix_of_readMore _ r').trans (List.suffix_append t r')

/-- A text that is not blank is accepted when nothing of it is left over. -/
theorem parse_eq_ok_of_ne_nil {text : String} {cs : List Condition} (h : trim text.toList ≠ []) :
    parse text = .ok cs ↔ readConditions (trim text.toList) = .ok (cs, []) := by
  rw [parse.eq_def]
  split
  · rename_i hnil
    exact absurd hnil h
  · constructor
    · intro hparse
      split at hparse
      · exact absurd hparse (by simp)
      · rename_i cs' rest hread
        split at hparse
        · rename_i hrest
          obtain rfl := Except.ok.inj hparse
          rw [hread, eq_nil_of_suffix_trim (suffix_of_readConditions hread) hrest]
        · exact absurd hparse (by simp)
    · intro hread
      rw [hread]
      rfl

/-- **Reading accepts exactly the grammar of filters,** and it returns the conditions that the
grammar derives. -/
theorem parse_eq_ok_iff_filterText {text : String} {cs : List Condition}
    (h : trim text.toList ≠ []) : parse text = .ok cs ↔ FilterText (trim text.toList) cs := by
  rw [parse_eq_ok_of_ne_nil h, readConditions_eq_ok_nil_iff]

theorem filterText_quoted_and : trim " Name='Salt AND Pepper'\tor Size NOT in 1, 2 ".toList ≠ [] ∧
    FilterText (trim " Name='Salt AND Pepper'\tor Size NOT in 1, 2 ".toList)
      [⟨"Name", .eq, "Salt AND Pepper", some .or⟩, ⟨"Size", .notIn, "1, 2", none⟩] := by
  have h : trim " Name='Salt AND Pepper'\tor Size NOT in 1, 2 ".toList ≠ [] := by decide
  exact ⟨h, (parse_eq_ok_iff_filterText h).1 (by rfl)⟩

end Soql.Filter
