/-
# Filters joined into one

Two filters with AND or OR between them are one filter, with the conditions of both, and nothing
is read in another way than in each filter by itself. The only thing in the way is an AND or OR at
the end of the first filter: a value without quotes may end in that word, but with a gap after it
the word no longer belongs to the value.

Key definitions: `EndsBare`, `EndsInConnective`.
Key theorems: `FilterText.before_connective`, `ConditionsText.filterText_append_iff`,
`parse_joined_iff`.
-/
import Soql.Proofs.Filter.Context

namespace Soql.Filter

open Text

/-- The filter ends in the value `v` without quotes. -/
inductive EndsBare (v : List Char) : List Char → Prop
  | here {b : List Char} (before : BeforeValue b v)
      (first : ∀ c ∈ v.head?, isQuote c = false ∧ isGap c = false)
      (inside : NoConnectiveIn v []) : EndsBare v (b ++ v)
  | later {t w s : List Char} {c : Condition} {k : Conjunction}
      (condition : ConditionText t c (w ++ s)) (connective : ConnectiveText w k)
      (rest : EndsBare v s) : EndsBare v (t ++ (w ++ s))

/-- AND or OR stands at the end, after a gap. -/
def EndsInConnective (v : List Char) : Prop :=
  ∃ a c w k, isGap c = true ∧ Spells (Conjunction.word k).toList w ∧ v = a ++ c :: w

/-- A value without quotes at the end of a text goes no further when a connective comes after it,
unless it ends in one itself. -/
theorem NoConnectiveIn.before_connective {v next : List Char} (h : NoConnectiveIn v [])
    (hlast : ∀ c ∈ v.getLast?, isGap c = false) (hend : ¬EndsInConnective v)
    (hnext : BeginsConnective next) : NoConnectiveIn v next := by
  rintro a b rfl hne hbegins
  have hlast' : ∀ c ∈ b.getLast?, isGap c = false := fun c hc =>
    hlast c (by rw [List.getLast?_append, Option.mem_def.1 hc]; rfl)
  rcases cases_of_beginsConnective hne hlast' (.inr hnext.gapNext) hbegins with
    hb | ⟨g, w, k, ⟨hgne, hg⟩, hw, rfl⟩
  · exact h a b rfl hne (by rwa [List.append_nil])
  · rcases List.eq_nil_or_concat g with rfl | ⟨g, c, rfl⟩
    · exact hgne rfl
    · rw [List.concat_eq_append] at hg
      exact hend ⟨a ++ g, c, w, k, hg c (by simp), hw, by simp⟩

/-- A filter in front of a connective is read as it is by itself. -/
theorem FilterText.before_connective {s next : List Char} {cs : List Condition}
    (h : FilterText s cs) (hlast : ∀ c ∈ s.getLast?, isGap c = false)
    (hend : ∀ v, EndsBare v s → ¬EndsInConnective v) (hnext : BeginsConnective next) :
    ConditionsText s cs next := by
  induction h with
  | last condition =>
    obtain ⟨b, x, v, rfl, before, value, hmoved⟩ := condition.moved
    rw [List.append_nil] at before
    refine .last (hmoved x next rfl ?_)
    cases value with
    | quoted quote inside => exact .quoted quote inside
    | bare first inside _ nonempty =>
      have hvalue : ∀ c ∈ x.getLast?, isGap c = false := fun c hc =>
        hlast c (by rw [List.getLast?_append, Option.mem_def.1 hc]; rfl)
      exact .bare first (inside.before_connective hvalue (hend x (.here before first inside)) hnext)
        (.inr hnext) nonempty
  | more condition connective rest ih =>
    refine .more (condition.before_connective connective _) connective (ih (fun c hc => ?_) ?_)
    · exact hlast c (by
        rw [List.getLast?_append, List.getLast?_append, Option.mem_def.1 hc]
        rfl)
    · exact fun v hv => hend v (.later condition connective hv)

/-- What comes after conditions and a connective is a filter exactly when all is, and it has the
conditions that come after those. -/
theorem ConditionsText.filterText_append_iff {p w s : List Char} {cs : List Condition}
    {k : Conjunction} (h : ConditionsText p cs (w ++ s)) (hw : ConnectiveText w k)
    (hs : StopsAt isGap s) : ∃ before last, cs = before ++ [last] ∧
      ∀ ds, FilterText (p ++ (w ++ s)) ds ↔
        ∃ cs', FilterText s cs' ∧ ds = before ++ last.joinedBy (some k) :: cs' := by
  generalize hnext : w ++ s = next at h
  induction h with
  | last condition =>
    subst hnext
    rename_i t c
    refine ⟨[], c, rfl, fun ds => ⟨fun h => h.rest condition hw hs, ?_⟩⟩
    rintro ⟨cs', hcs', rfl⟩
    exact .more condition hw hcs'
  | more condition connective rest ih =>
    subst hnext
    rename_i t w' s' c k' cs
    obtain ⟨before, last, rfl, hall⟩ := ih rfl
    refine ⟨c.joinedBy (some k') :: before, last, rfl, fun ds => ?_⟩
    rw [List.append_assoc, List.append_assoc]
    constructor
    · intro h
      obtain ⟨ds', hds', rfl⟩ := h.rest condition connective rest.stopsAt
      obtain ⟨cs', hcs', rfl⟩ := (hall ds').1 hds'
      exact ⟨cs', hcs', rfl⟩
    · rintro ⟨cs', hcs', rfl⟩
      exact .more condition connective ((hall _).2 ⟨cs', hcs', rfl⟩)

/-! ### Accepted filters -/

theorem parse_eq_ok_iff_of_trimmed {s : String} (hne : s ≠ "") (htrim : trim s.toList = s.toList)
    (cs : List Condition) : parse s = .ok cs ↔ FilterText s.toList cs := by
  rw [parse_eq_ok_iff_filterText, htrim]
  rw [htrim]
  exact fun hnil => hne (String.toList_eq_nil_iff.1 hnil)

theorem ends_of_trimmed {s : String} (hne : s ≠ "") (htrim : trim s.toList = s.toList) :
    (∀ d ∈ s.toList.head?, isBlank d = false) ∧
      ∃ t c, s.toList = t ++ [c] ∧ isBlank c = false := by
  have hends := trim_eq_nil_or_ends s.toList
  rw [htrim] at hends
  exact hends.resolve_left fun hnil => hne (String.toList_eq_nil_iff.1 hnil)

/-- Two filters without blanks around them and a connective between them are read as one exactly
when the second one is read by itself, and then all conditions are those of the first one, joined by
the connective, and those of the second one. -/
theorem parse_joined_iff {s₁ s₂ : String} {cs₁ : List Condition} (hne₁ : s₁ ≠ "")
    (htrim₁ : trim s₁.toList = s₁.toList) (hne₂ : s₂ ≠ "") (htrim₂ : trim s₂.toList = s₂.toList)
    (h : parse s₁ = .ok cs₁) (hend : ∀ v, EndsBare v s₁.toList → ¬EndsInConnective v)
    (k : Conjunction) :
    let joined := s₁ ++ " " ++ k.word ++ " " ++ s₂
    ((∃ cs, parse joined = .ok cs) ↔ ∃ cs₂, parse s₂ = .ok cs₂) ∧
    ∃ before last, cs₁ = before ++ [last] ∧
      ∀ cs, parse joined = .ok cs ↔
        ∃ cs₂, parse s₂ = .ok cs₂ ∧ cs = before ++ last.joinedBy (some k) :: cs₂ := by
  intro joined
  have hw := connectiveText_print k
  have htext : joined.toList = s₁.toList ++ (printConjunction (some k) ++ s₂.toList) := by
    simp [joined, printConjunction]
  obtain ⟨hfirst₁, t₁, c₁, hlast₁, hc₁⟩ := ends_of_trimmed hne₁ htrim₁
  obtain ⟨hfirst₂, t₂, c₂, hlast₂, hc₂⟩ := ends_of_trimmed hne₂ htrim₂
  have hend₁ : ∀ c ∈ s₁.toList.getLast?, isGap c = false := by
    rw [hlast₁, List.getLast?_concat]
    rintro _ ⟨⟩
    exact not_isGap_of_not_isBlank hc₁
  have hstart₂ : StopsAt isGap s₂.toList := fun c hc => not_isGap_of_not_isBlank (hfirst₂ c hc)
  have htrim : trim joined.toList = joined.toList := by
    obtain ⟨d, u, hu⟩ : ∃ d u, s₁.toList = d :: u :=
      List.exists_cons_of_ne_nil (by simp [hlast₁])
    rw [hu] at hfirst₁ htext
    refine trim_eq_self (t := s₁.toList ++ (printConjunction (some k) ++ t₂)) ?_ hc₂ ?_
    · rw [htext, hlast₂, hu]
      simp only [List.append_assoc]
    · rw [htext]
      exact hfirst₁
  have hne : joined ≠ "" := by
    intro hnil
    rw [hnil, hlast₁] at htext
    simp at htext
  have hlong : ConditionsText s₁.toList cs₁ (printConjunction (some k) ++ s₂.toList) :=
    ((parse_eq_ok_iff_of_trimmed hne₁ htrim₁ cs₁).1 h).before_connective hend₁ hend
      ⟨_, k, s₂.toList, hw, rfl⟩
  obtain ⟨before, last, hcs₁, hall⟩ := hlong.filterText_append_iff hw hstart₂
  have hjoined : ∀ cs, parse joined = .ok cs ↔
      ∃ cs₂, parse s₂ = .ok cs₂ ∧ cs = before ++ last.joinedBy (some k) :: cs₂ := by
    intro cs
    simp only [parse_eq_ok_iff_of_trimmed hne htrim, parse_eq_ok_iff_of_trimmed hne₂ htrim₂]
    rw [htext, hall cs]
  refine ⟨?_, before, last, hcs₁, hjoined⟩
  simp only [hjoined]
  constructor
  · rintro ⟨-, cs₂, h₂, -⟩
    exact ⟨cs₂, h₂⟩
  · rintro ⟨cs₂, h₂⟩
    exact ⟨_, cs₂, h₂, rfl⟩

theorem EndsBare.suffix {v s : List Char} (h : EndsBare v s) : v <:+ s := by
  induction h with
  | here _ _ _ => exact List.suffix_append _ v
  | later _ _ _ ih => exact ih.trans ((List.suffix_append _ _).trans (List.suffix_append _ _))

/-- What ends in a connective has its word as the last one. -/
theorem EndsInConnective.getLast? {v s : List Char} (h : EndsInConnective v) (hv : v <:+ s) :
    ∃ w k, (pieces isGap s).getLast? = some w ∧ Spells (Conjunction.word k).toList w := by
  obtain ⟨a, c, w, k, hc, hw, rfl⟩ := h
  obtain ⟨b, rfl⟩ := hv
  refine ⟨w, k, ?_, hw⟩
  rw [← List.append_assoc, pieces_append_sep isGap hc, pieces_of_not_mem (isGap_of_spells hw),
    List.getLast?_concat]

/-- A connective inside of quotes and one in small letters are no matter. -/
theorem parse_joined_iff_saltAndPepper :
    let s₁ := "Size IN 1,\t2 or Name = 'Salt AND Pepper'"
    let s₂ := "Kind != sand"
    s₁ ≠ "" ∧ trim s₁.toList = s₁.toList ∧ s₂ ≠ "" ∧ trim s₂.toList = s₂.toList ∧
    parse s₁ = .ok [⟨"Size", .isIn, "1,\t2", some .or⟩, ⟨"Name", .eq, "Salt AND Pepper", none⟩] ∧
    (∀ v, EndsBare v s₁.toList → ¬EndsInConnective v) ∧
    parse (s₁ ++ " " ++ "AND" ++ " " ++ s₂) =
      .ok [⟨"Size", .isIn, "1,\t2", some .or⟩, ⟨"Name", .eq, "Salt AND Pepper", some .and⟩,
        ⟨"Kind", .ne, "sand", none⟩] := by
  intro s₁ s₂
  have hne₁ : s₁ ≠ "" := by decide
  have hne₂ : s₂ ≠ "" := by decide
  have htrim₁ : trim s₁.toList = s₁.toList := by decide
  have htrim₂ : trim s₂.toList = s₂.toList := by decide
  have h₁ : parse "Size IN 1,\t2 or Name = 'Salt AND Pepper'" =
      .ok [⟨"Size", .isIn, "1,\t2", some .or⟩, ⟨"Name", .eq, "Salt AND Pepper", none⟩] := rfl
  have h₂ : parse "Kind != sand" = .ok [⟨"Kind", .ne, "sand", none⟩] := rfl
  have hend : ∀ v, EndsBare v s₁.toList → ¬EndsInConnective v := by
    intro v hv hconnective
    obtain ⟨w, k, hlast, hw⟩ := hconnective.getLast? hv.suffix
    have hpepper : (pieces isGap s₁.toList).getLast? = some "Pepper'".toList := by decide
    obtain rfl := Option.some.inj (hpepper.symm.trans hlast)
    revert hw
    cases k <;> decide
  obtain ⟨-, before, last, hcs, hall⟩ :=
    parse_joined_iff hne₁ htrim₁ hne₂ htrim₂ h₁ hend .and
  rw [← List.singleton_append] at hcs
  obtain ⟨rfl, hlast⟩ := List.append_inj' hcs rfl
  obtain rfl := List.singleton_inj.1 hlast
  exact ⟨hne₁, htrim₁, hne₂, htrim₂, h₁, hend, (hall _).2 ⟨_, h₂, rfl⟩⟩

/-- A word that ends a value is a connective once a gap comes after it. -/
example : parse "Size = 1 AND" = .ok [⟨"Size", .eq, "1 AND", none⟩] ∧
    parse "Kind = 2" = .ok [⟨"Kind", .eq, "2", none⟩] ∧
    parse "Size = 1 AND AND Kind = 2" = .error (.unreadFilter "AND AND Kind = 2") :=
  ⟨rfl, rfl, rfl⟩

end Soql.Filter
