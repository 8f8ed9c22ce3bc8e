/-
# The conditions that a filter loses

A filter is accepted with a value that is two quotes and nothing between them, and a condition
with an empty value takes no part in a query. So that condition is dropped without a word, while
all others are rendered, each once and in their order. Nothing else is ever dropped: the
conditions of a filter restrict a query in full exactly when no two quotes stand where a value
is due.

Key definitions: `BeforeValue`, `QuotesNothing`.
Key theorems: `valueText_nil_iff`, `quotesNothing_iff`, `restricts_iff`, `emptyQuotes_dropped`.
-/
import Soql.Cli.Run
import Soql.Proofs.Filter.Printing
import Soql.Proofs.Outcome
import Soql.Proofs.Query.Unambiguous

namespace Soql.Filter

open Text

/-- What stands before a value that begins with the text `next`: a field and an operator. -/
inductive BeforeValue : List Char → List Char → Prop
  | mk {f g o g' next : List Char} {op : Operator} (nonempty : f ≠ [])
      (field : ∀ c ∈ f, isFieldChar c = true)
      (longest : StopsAt isFieldChar (g ++ (o ++ (g' ++ next)))) (between : MayGaps g)
      (operator : OperatorText o op (g' ++ next)) (between' : MayGaps g') :
      BeforeValue (f ++ (g ++ (o ++ g'))) next

/-- In a condition of the filter, two equal quotes stand where its value is due. -/
inductive QuotesNothing : List Char → Prop
  | here {b next : List Char} {q : Char} (quote : isQuote q = true)
      (before : BeforeValue b (q :: q :: next)) : QuotesNothing (b ++ q :: q :: next)
  | later {t w s : List Char} {c : Condition} {k : Conjunction}
      (condition : ConditionText t c (w ++ s)) (connective : ConnectiveText w k)
      (rest : QuotesNothing s) : QuotesNothing (t ++ (w ++ s))

/-! ### Empty values -/

/-- An empty value can only be written as two quotes. -/
theorem valueText_nil_iff {t next : List Char} :
    ValueText t [] next ↔ ∃ q, isQuote q = true ∧ t = [q, q] := by
  constructor
  · intro h
    generalize hv : ([] : List Char) = v at h
    cases h with
    | quoted quote _ => exact ⟨_, quote, by rw [← hv]; rfl⟩
    | bare _ _ _ nonempty => exact absurd hv.symm nonempty
  · rintro ⟨q, quote, rfl⟩
    exact .quoted (v := []) quote List.not_mem_nil

/-- A value between quotes is read as what stands between them. -/
theorem BeforeValue.readCondition {b v next : List Char} {q : Char} (quote : isQuote q = true)
    (inside : q ∉ v) (h : BeforeValue b (q :: (v ++ q :: next))) :
    ∃ c, readCondition (b ++ q :: (v ++ q :: next)) = .ok (c, next) ∧
      c.value = String.ofList v := by
  obtain ⟨nonempty, field, longest, between, operator, between'⟩ := h
  have hsame : q :: (v ++ q :: next) = q :: (v ++ [q]) ++ next := by simp
  rw [hsame] at longest operator ⊢
  refine ⟨_, readCondition_eq_ok_iff.2 ⟨_, .mk nonempty field longest between operator between'
    (.quoted quote inside), ?_⟩, rfl⟩
  simp only [List.append_assoc]

theorem ConditionText.quotesNothing {t next : List Char} {c : Condition}
    (h : ConditionText t c next) (hc : c.value = "") : QuotesNothing (t ++ next) := by
  obtain ⟨nonempty, field, longest, between, operator, between', value⟩ := h
  rename_i v op
  obtain rfl : v = [] := String.ofList_eq_empty_iff.1 hc
  obtain ⟨q, quote, rfl⟩ := valueText_nil_iff.1 value
  have hhere : QuotesNothing (_ ++ q :: q :: next) :=
    .here quote (.mk nonempty field longest between operator between')
  simpa only [List.append_assoc, List.cons_append, List.nil_append] using hhere

theorem QuotesNothing.stopsAt {s : List Char} (h : QuotesNothing s) : StopsAt isGap s := by
  cases h with
  | here quote before =>
    obtain ⟨c, hc, -⟩ := before.readCondition (v := []) quote List.not_mem_nil
    obtain ⟨t, ht, hs⟩ := readCondition_eq_ok_iff.1 hc
    rw [List.nil_append] at hs
    rw [hs]
    exact ht.stopsAt
  | later condition _ _ => exact condition.stopsAt

/-- A filter that is read as one condition and a text after it begins with that condition, and
goes on with a connective unless the text is empty. -/
theorem FilterText.cases_of_readCondition {s r : List Char} {c : Condition} {cs : List Condition}
    (h : FilterText s cs) (hc : Filter.readCondition s = .ok (c, r)) :
    (r = [] ∧ cs = [c]) ∨ ∃ w s' k cs', r = w ++ s' ∧ ConnectiveText w k ∧ FilterText s' cs' ∧
      cs = c.joinedBy (some k) :: cs' := by
  cases h with
  | last condition =>
    have hread := readCondition_eq_ok_iff.2 ⟨s, condition, (List.append_nil s).symm⟩
    obtain ⟨rfl, rfl⟩ := Prod.mk.inj (Except.ok.inj (hread.symm.trans hc))
    exact .inl ⟨rfl, rfl⟩
  | more condition connective rest =>
    have hread := readCondition_eq_ok_iff.2 ⟨_, condition, rfl⟩
    obtain ⟨rfl, rfl⟩ := Prod.mk.inj (Except.ok.inj (hread.symm.trans hc))
    exact .inr ⟨_, _, _, _, rfl, connective, rest, rfl⟩

/-- What stands after a condition and a connective of a filter is the rest of the filter. -/
theorem FilterText.rest {t w s : List Char} {c : Condition} {k : Conjunction}
    {cs : List Condition} (h : FilterText (t ++ (w ++ s)) cs)
    (condition : ConditionText t c (w ++ s)) (connective : ConnectiveText w k)
    (hstop : StopsAt isGap s) :
    ∃ cs', FilterText s cs' ∧ cs = c.joinedBy (some k) :: cs' := by
  have hc := readCondition_eq_ok_iff.2 ⟨t, condition, rfl⟩
  rcases h.cases_of_readCondition hc with ⟨hnil, -⟩ | ⟨w', s', k', cs', heq, hw', hs', rfl⟩
  · obtain ⟨⟨hne, -⟩, -, -⟩ := connective
    simp [hne] at hnil
  · -- both texts after the condition are read up to the same place
    have hread := readConnective?_eq_some_iff.2 ⟨w, connective, rfl, hstop⟩
    have hread' := readConnective?_eq_some_iff.2 ⟨w', hw', rfl, hs'.stopsAt⟩
    rw [heq, hread'] at hread
    obtain ⟨rfl, rfl⟩ := Prod.mk.inj (Option.some.inj hread)
    exact ⟨cs', hs', rfl⟩

theorem exists_empty_of_quotesNothing {s : List Char} (h : QuotesNothing s) :
    ∀ {cs : List Condition}, FilterText s cs → ∃ c ∈ cs, c.value = "" := by
  induction h with
  | here quote before =>
    intro cs hs
    obtain ⟨c, hc, hvalue⟩ := before.readCondition (v := []) quote List.not_mem_nil
    rcases hs.cases_of_readCondition hc with ⟨-, rfl⟩ | ⟨w, s', k, cs', -, -, -, rfl⟩
    · exact ⟨c, List.mem_cons_self, hvalue⟩
    · exact ⟨_, List.mem_cons_self, hvalue⟩
  | later condition connective rest ih =>
    intro cs hs
    obtain ⟨cs', hs', rfl⟩ := hs.rest condition connective rest.stopsAt
    obtain ⟨d, hd, hvalue⟩ := ih hs'
    exact ⟨d, List.mem_cons_of_mem _ hd, hvalue⟩

/-- A filter has a condition without a value exactly when it quotes nothing somewhere. -/
theorem quotesNothing_iff {s : List Char} {cs : List Condition} (h : FilterText s cs) :
    QuotesNothing s ↔ ∃ c ∈ cs, c.value = "" := by
  refine ⟨fun hs => exists_empty_of_quotesNothing hs h, ?_⟩
  rintro ⟨c, hc, hvalue⟩
  induction h with
  | @last t d condition =>
    obtain rfl := List.mem_singleton.1 hc
    simpa using condition.quotesNothing hvalue
  | more condition connective rest ih =>
    rcases List.mem_cons.1 hc with rfl | hc
    · exact condition.quotesNothing hvalue
    · exact .later condition connective (ih hc)

/-! ### Active conditions -/

theorem ConditionText.field_not_blank {t next : List Char} {c : Condition}
    (h : ConditionText t c next) : isBlankString c.field = false := by
  obtain ⟨nonempty, field, -⟩ := h
  rename_i f _ _ _ _ _ _
  obtain ⟨d, f', rfl⟩ := List.exists_cons_of_ne_nil nonempty
  have hd := not_isBlank_of_isFieldChar (field d List.mem_cons_self)
  show isBlankText (String.ofList (d :: f')).toList = false
  rw [String.toList_ofList, isBlankText_cons, hd, Bool.false_and]

theorem FilterText.field_not_blank {s : List Char} {cs : List Condition} (h : FilterText s cs) :
    ∀ c ∈ cs, isBlankString c.field = false := by
  induction h with
  | last condition => exact fun c hc => List.mem_singleton.1 hc ▸ condition.field_not_blank
  | more condition _ _ ih => exact List.forall_mem_cons.2 ⟨condition.field_not_blank, ih⟩

/-- A condition of a filter is active when it has a value. -/
theorem FilterText.isActive_eq {s : List Char} {cs : List Condition} (h : FilterText s cs) :
    ∀ c ∈ cs, c.isActive = !c.value.isEmpty := by
  intro c hc
  rw [Condition.isActive, h.field_not_blank c hc]
  rfl

theorem parse_cases {text : String} {cs : List Condition} (h : parse text = .ok cs) :
    (trim text.toList = [] ∧ cs = []) ∨ FilterText (trim text.toList) cs := by
  by_cases hnil : trim text.toList = []
  · unfold parse at h
    rw [hnil] at h
    exact .inl ⟨hnil, (Except.ok.inj h).symm⟩
  · exact .inr ((parse_eq_ok_iff_filterText hnil).1 h)

theorem not_quotesNothing_nil : ¬QuotesNothing [] := by
  intro h
  generalize hs : ([] : List Char) = s at h
  cases h with
  | here _ _ => simp at hs
  | later _ connective _ =>
    obtain ⟨⟨hne, -⟩, -, -⟩ := connective
    simp [hne] at hs

/-! ### On the command line -/

/-- The conditions of a query that options describe are those of their filter. -/
theorem conditions_of_query {x : Cli.Selection} {q : Query} {text : String} {cs : List Condition}
    (hx : x.filter = some text) (h : parse text = .ok cs) (hq : x.query = .ok q) :
    q.conditions = cs := by
  rw [Cli.Selection.query] at hq
  simp only [hx, h, mapError_ok, ok_bind] at hq
  split at hq
  · rw [← Except.ok.inj hq]
  · obtain ⟨o, -, hq⟩ := bind_eq_ok.1 hq
    rw [← Except.ok.inj hq]

theorem clause_ne_empty {cs : List Condition} (h : activeConditions cs ≠ []) : clause cs ≠ "" := by
  have hruns : orRuns (activeConditions cs) ≠ [] := fun hnil => h <| by
    rw [← flatten_orRuns (activeConditions cs), hnil]
    rfl
  obtain ⟨run, runs, hrun⟩ := List.exists_cons_of_ne_nil hruns
  have hne : renderRun run ≠ "" := by
    rw [← Normal.renderRun_map]
    exact renderRun_ne_empty _
  rw [clause, hrun]
  cases runs with
  | nil => simpa using hne
  | cons run' runs => simp [hne]

/-- All conditions of an accepted filter are active exactly when no two quotes stand where a value
is due; those that are not active are the ones with an empty value. All others are rendered, each
once and in their order. So without an empty value, the query that the command line makes of the
filter is restricted by each of its conditions. -/
theorem restricts_iff {text : String} {cs : List Condition} (h : parse text = .ok cs) :
    ((∀ c ∈ cs, c.isActive = true) ↔ ¬QuotesNothing (trim text.toList)) ∧
    (∀ c ∈ cs, c.isActive = false ↔ c.value = "") ∧
    (orRuns (activeConditions cs)).flatten = cs.filter (!·.value.isEmpty) ∧
    (¬QuotesNothing (trim text.toList) → cs ≠ [] →
      ∃ runs : List (List Condition), runs.flatten = cs ∧ (∀ run ∈ runs, run ≠ []) ∧
        clause cs = " AND ".intercalate (runs.map renderRun) ∧
        ∀ (x : Cli.Selection) (q : Query), x.filter = some text → x.query = .ok q →
          q.compile = "SELECT " ++ ", ".intercalate q.selected ++ " FROM " ++ q.objectName ++
            " WHERE " ++ " AND ".intercalate (runs.map renderRun) ++
            Query.renderOrder q.sorting ++ Query.renderLimit q.rowLimit) := by
  have hactive : ∀ c ∈ cs, c.isActive = !c.value.isEmpty := by
    rcases parse_cases h with ⟨-, rfl⟩ | hs
    · exact fun _ hc => absurd hc List.not_mem_nil
    · exact hs.isActive_eq
  have hquotes : QuotesNothing (trim text.toList) ↔ ∃ c ∈ cs, c.value = "" := by
    rcases parse_cases h with ⟨hnil, rfl⟩ | hs
    · rw [hnil]
      exact ⟨fun hq => absurd hq not_quotesNothing_nil,
        fun ⟨_, hc, _⟩ => absurd hc List.not_mem_nil⟩
    · exact quotesNothing_iff hs
  have hall : (∀ c ∈ cs, c.isActive = true) ↔ ¬QuotesNothing (trim text.toList) := by
    rw [hquotes, not_exists]
    refine forall_congr' fun c => ?_
    rw [not_and]
    refine forall_congr' fun hc => ?_
    rw [hactive c hc]
    simp
  refine ⟨hall, fun c hc => by rw [hactive c hc]; simp, ?_, fun hnot hne => ?_⟩
  · rw [flatten_orRuns]
    exact List.filter_congr hactive
  · have hsame : activeConditions cs = cs := List.filter_eq_self.2 (hall.2 hnot)
    refine ⟨orRuns cs, flatten_orRuns cs, fun run hrun => ne_nil_of_mem_orRuns cs run hrun,
      by rw [clause, hsame], fun x q hx hq => ?_⟩
    have hwhere : clause cs ≠ "" := clause_ne_empty (by rwa [hsame])
    rw [Query.compile, conditions_of_query hx h hq, Query.part, if_neg (by simpa using hwhere),
      clause, hsame]
    simp only [String.append_assoc]

theorem restricts_iff_quotedAnd :
    parse " Name = 'Salt AND Pepper' or Size > 5 AND Kind NOT IN a, , b " =
      .ok [⟨"Name", .eq, "Salt AND Pepper", some .or⟩, ⟨"Size", .gt, "5", some .and⟩,
        ⟨"Kind", .notIn, "a, , b", none⟩] ∧
    ¬QuotesNothing
      (trim " Name = 'Salt AND Pepper' or Size > 5 AND Kind NOT IN a, , b ".toList) := by
  have h : parse " Name = 'Salt AND Pepper' or Size > 5 AND Kind NOT IN a, , b " =
      .ok [⟨"Name", .eq, "Salt AND Pepper", some .or⟩, ⟨"Size", .gt, "5", some .and⟩,
        ⟨"Kind", .notIn, "a, , b", none⟩] := rfl
  exact ⟨h, (restricts_iff h).1.1 (by decide)⟩

/-- A condition is dropped without a word, and all accounts are queried. -/
theorem emptyQuotes_dropped :
    let x : Cli.Selection := ⟨"Account", [], some "Name = ''", none, false, none⟩
    parse "Name = ''" = .ok [⟨"Name", .eq, "", none⟩] ∧
      (⟨"Name", .eq, "", none⟩ : Condition).isActive = false ∧
      clause [⟨"Name", .eq, "", none⟩] = "" ∧
      x.query = .ok ⟨"Account", [], [⟨"Name", .eq, "", none⟩], none, none⟩ ∧
      (⟨"Account", [], [⟨"Name", .eq, "", none⟩], none, none⟩ : Query).compile =
        "SELECT Id FROM Account" := by
  intro x
  refine ⟨rfl, rfl, rfl, rfl, rfl⟩

end Soql.Filter
