/-
# Two queries with one text say the same

A name ends where no character of a name follows, a text in quotes at its closing quote,
a number where no character of a number follows. None of these is a blank, a comma or a
parenthesis, so every part of the text of a query tells where it ends, and the text of a
query can be cut in only one way. This needs names that are names, values without a quote,
and single values that are not variables: those would stand in the text as they are.

Key definitions: `IsName`, `Query.WellFormed`, `Comparison.Good`, `Normal.Good`.
Key theorems: `separable_comparison`, `separable_clause`, `Normal.compile_inj`,
`compile_eq_iff_normal_eq`.
-/
import Soql.Query.Filter
import Soql.Proofs.Query.Normal
import Soql.Proofs.Text.Decimal
import Soql.Proofs.Text.Separable
import Soql.Proofs.Text.Trim

namespace Soql

open Text

/-- A text of the characters of a field, possibly the empty one. -/
def IsName (s : String) : Prop := ∀ c ∈ s.toList, Filter.isFieldChar c = true

def NoQuote (s : String) : Prop := '\'' ∉ s.toList

instance (s : String) : Decidable (IsName s) := List.decidableBAll _ s.toList

instance (s : String) : Decidable (NoQuote s) := inferInstanceAs (Decidable (_ ∉ s.toList))

/-- A query whose text can be cut again. -/
structure Query.WellFormed (q : Query) : Prop where
  object : IsName (stripped q.object)
  fields : ∀ f ∈ q.fields, IsName (stripped f)
  sortField : ∀ o ∈ q.order, IsName (stripped o.field)
  conditionFields : ∀ c ∈ activeConditions q.conditions, IsName (stripped c.field)
  noQuotes : ∀ c ∈ activeConditions q.conditions, NoQuote c.value
  noVariables : ∀ c ∈ activeConditions q.conditions, c.operator ≠ .like →
    c.operator.takesList = false → c.value.toList.head? ≠ some variableMark

/-! ### Names, texts in quotes and numbers -/

theorem separable_name : Separable String.toList IsName (StopsAt Filter.isFieldChar) := by
  intro x y r s hx hy hr hs h
  obtain ⟨hxy, hrs⟩ := append_inj_of_run hx hy hr hs h
  exact ⟨String.toList_inj.1 hxy, hrs⟩

theorem toList_inQuotes (s : String) : (inQuotes s).toList = '\'' :: (s.toList ++ ['\'']) := by
  simp [inQuotes]

theorem separable_inQuotes : Separable (fun s => (inQuotes s).toList) NoQuote fun _ => True := by
  intro x y r s hx hy _ _ h
  simp only [toList_inQuotes, List.cons_append, List.append_assoc, List.nil_append,
    List.cons.injEq, true_and] at h
  have hq : ∀ {z : String}, NoQuote z → ∀ c ∈ z.toList, (c != '\'') = true := by
    intro z hz c hc
    rw [bne_iff_ne]
    rintro rfl
    exact hz hc
  obtain ⟨hxy, hrs⟩ := append_inj_of_run (hq hx) (hq hy) (stopsAt_cons.2 (by decide))
    (stopsAt_cons.2 (by decide)) h
  exact ⟨String.toList_inj.1 hxy, (List.cons.inj hrs).2⟩

/-- The characters of a number. -/
def isNumberChar (c : Char) : Bool := isDecimalDigit c || c = '.' || c = '+' || c = '-'

theorem isNumberChar_of_mem_unsigned {s : List Char} (h : isUnsignedNumber s = true) :
    ∀ c ∈ s, isNumberChar c = true := by
  have hdigit : ∀ c, isDecimalDigit c = true → isNumberChar c = true := by
    intro c hc
    simp [isNumberChar, hc]
  have hwhole : ∀ c ∈ s.takeWhile isDecimalDigit, isNumberChar c = true :=
    fun c hc => hdigit c (List.all_eq_true.1 List.all_takeWhile c hc)
  intro c hc
  rw [← List.takeWhile_append_dropWhile (p := isDecimalDigit) (l := s)] at hc
  rcases List.mem_append.1 hc with hc | hc
  · exact hwhole c hc
  · rw [isUnsignedNumber] at h
    split at h
    · rename_i hnil
      rw [hnil] at hc
      exact absurd hc List.not_mem_nil
    · rename_i d places hcons
      simp only [Bool.and_eq_true, decide_eq_true_eq, List.all_eq_true] at h
      rw [hcons] at hc
      rcases List.mem_cons.1 hc with rfl | hc
      · simp [isNumberChar, h.1.1]
      · exact hdigit c (h.1.2 c hc)

theorem isNumberChar_of_mem {s : List Char} (h : isNumberText s = true) :
    ∀ c ∈ s, isNumberChar c = true := by
  cases s with
  | nil => simp
  | cons d s =>
    rw [isNumberText] at h
    split at h
    · rename_i hsign
      intro c hc
      rcases List.mem_cons.1 hc with rfl | hc
      · rcases (by simpa using hsign : c = '+' ∨ c = '-') with rfl | rfl <;> decide
      · exact isNumberChar_of_mem_unsigned h c hc
    · exact isNumberChar_of_mem_unsigned h

/-! ### Comparisons -/

/-- The operand of an operator as it comes from a value without quotes. -/
def Operand.Good (op : Operator) : Operand → Prop
  | .text value => op.takesList = false ∧ NoQuote value ∧
      (op ≠ .like → value.toList.head? ≠ some variableMark)
  | .items values => op.takesList = true ∧ values ≠ [] ∧ ∀ v ∈ values, NoQuote v

/-- A value that stands for itself, when it is no variable, is a number. -/
theorem isNumberText_of_isBare {value : String} (hb : isBare value = true)
    (hv : value.toList.head? ≠ some variableMark) : isNumberText value.toList = true := by
  rw [isBare, Bool.or_eq_true, beq_iff_eq] at hb
  exact hb.resolve_left hv

theorem bare_ne_inQuotes {x y : String} {r s : List Char} (hx : isNumberText x.toList = true) :
    x.toList ++ r ≠ (inQuotes y).toList ++ s := by
  intro h
  have hmem := isNumberChar_of_mem hx
  rw [toList_inQuotes] at h
  cases hc : x.toList with
  | nil => rw [hc] at hx; exact absurd hx (by decide)
  | cons c t =>
    rw [hc, List.cons_append, List.cons_append, List.cons.injEq] at h
    have := hmem c (by rw [hc]; exact List.mem_cons_self)
    rw [h.1] at this
    exact absurd this (by decide)

theorem separable_single : Separable (fun v => (if isBare v then v else inQuotes v).toList)
    (fun v => NoQuote v ∧ v.toList.head? ≠ some variableMark) (StopsAt isNumberChar) := by
  intro x y r s hx hy hr hs h
  by_cases bx : isBare x = true <;> by_cases by' : isBare y = true <;>
    simp only [bx, by', reduceIte, Bool.false_eq_true] at h
  · have nx := isNumberText_of_isBare bx hx.2
    have ny := isNumberText_of_isBare by' hy.2
    obtain ⟨hxy, hrs⟩ :=
      append_inj_of_run (isNumberChar_of_mem nx) (isNumberChar_of_mem ny) hr hs h
    exact ⟨String.toList_inj.1 hxy, hrs⟩
  · exact absurd h (bare_ne_inQuotes (isNumberText_of_isBare bx hx.2))
  · exact absurd h.symm (bare_ne_inQuotes (isNumberText_of_isBare by' hy.2))
  · exact separable_inQuotes x y r s hx.1 hy.1 trivial trivial h

/-- What a list of values ends with. -/
def Closes (r : List Char) : Prop := ∃ t, r = ')' :: t

theorem separable_items : Separable
    (fun vs : List String => [',', ' '].intercalate (vs.map fun v => (inQuotes v).toList))
    (fun vs => vs ≠ [] ∧ ∀ v ∈ vs, NoQuote v) Closes := by
  refine separable_inQuotes.joined (fun _ => trivial) fun r hr => ⟨trivial, ?_⟩
  obtain ⟨t, rfl⟩ := hr
  simp

theorem toList_operandText_items (op : Operator) (vs : List String) :
    (Comparison.operandText op (.items vs)).toList =
      '(' :: ([',', ' '].intercalate (vs.map fun v => (inQuotes v).toList) ++ [')']) := by
  simp [Comparison.operandText, Function.comp_def]

theorem separable_operand (op : Operator) :
    Separable (fun o => (Comparison.operandText op o).toList) (Operand.Good op)
      (StopsAt isNumberChar) := by
  intro x y r s hx hy hr hs h
  cases x with
  | text v =>
    cases y with
    | items ws => exact absurd (hx.1.symm.trans hy.1) (by decide)
    | text w =>
      by_cases hop : op = .like
      · simp only [Comparison.operandText, hop, reduceIte] at h
        have hpercent : ∀ {z : String}, NoQuote z → NoQuote ("%" ++ z ++ "%") := by
          intro z hz
          simpa [NoQuote] using hz
        obtain ⟨hvw, hrs⟩ := separable_inQuotes _ _ r s (hpercent hx.2.1) (hpercent hy.2.1)
          trivial trivial h
        obtain rfl : v = w := by
          simpa [← String.toList_inj] using hvw
        exact ⟨rfl, hrs⟩
      · simp only [Comparison.operandText, if_neg hop] at h
        obtain ⟨rfl, hrs⟩ := separable_single v w r s ⟨hx.2.1, hx.2.2 hop⟩ ⟨hy.2.1, hy.2.2 hop⟩
          hr hs h
        exact ⟨rfl, hrs⟩
  | items vs =>
    cases y with
    | text w => exact absurd (hx.1.symm.trans hy.1) (by decide)
    | items ws =>
      simp only [toList_operandText_items, List.cons_append, List.append_assoc, List.nil_append,
        List.cons.injEq, true_and] at h
      obtain ⟨rfl, hrs⟩ := separable_items vs ws _ _ hx.2 hy.2 ⟨r, rfl⟩ ⟨s, rfl⟩ h
      exact ⟨rfl, (List.cons.inj hrs).2⟩

/-- A comparison that comes from an active condition of a well-formed query. -/
structure Comparison.Good (c : Comparison) : Prop where
  field_ne : c.field.toList ≠ []
  field : IsName c.field
  operand : c.operand.Good c.operator

theorem symbol_append_inj {a b : Operator} {r s : List Char}
    (h : a.symbol.toList ++ ' ' :: r = b.symbol.toList ++ ' ' :: s) : a = b ∧ r = s := by
  cases a <;> cases b <;> simp_all [Operator.symbol]

theorem toList_render (c : Comparison) :
    c.render.toList = c.field.toList ++ ' ' :: (c.operator.symbol.toList ++
      ' ' :: (Comparison.operandText c.operator c.operand).toList) := by
  simp [Comparison.render]

theorem separable_comparison :
    Separable (fun c => (Comparison.render c).toList) Comparison.Good (StopsAt isNumberChar) := by
  intro x y r s hx hy hr hs h
  obtain ⟨f, op, o⟩ := x
  obtain ⟨f', op', o'⟩ := y
  simp only [toList_render, List.cons_append, List.append_assoc] at h
  obtain ⟨hf, h⟩ := separable_name _ _ _ _ hx.field hy.field (stopsAt_cons.2 (by decide))
    (stopsAt_cons.2 (by decide)) h
  obtain ⟨rfl, h⟩ := symbol_append_inj (List.cons.inj h).2
  obtain ⟨ho, hrs⟩ := separable_operand op _ _ _ _ hx.operand hy.operand hr hs h
  exact ⟨by simp only at hf ho; rw [hf, ho], hrs⟩

/-! ### Clauses -/

/-- The text ends, or it goes on with a blank and one of the words. -/
def GoesOn (words : List String) (r : List Char) : Prop :=
  r = [] ∨ ∃ w ∈ words, ' ' :: w.toList <+: r

theorem GoesOn.stopsAt {words : List String} {r : List Char} {p : Char → Bool}
    (h : GoesOn words r) (hp : p ' ' = false) : StopsAt p r := by
  rcases h with rfl | ⟨w, -, t, rfl⟩
  · exact stopsAt_nil p
  · exact stopsAt_cons.2 hp

/-- A word that begins differently does not come next. -/
theorem GoesOn.not_next {words : List String} {r v : List Char} {c : Char}
    (h : GoesOn words r) (hc : ∀ w ∈ words, w.toList ≠ [] ∧ w.toList.head? ≠ some c) :
    ¬ ' ' :: c :: v <+: r := by
  rintro ⟨t, ht⟩
  rcases h with rfl | ⟨w, hw, t', rfl⟩
  · simp at ht
  · obtain ⟨hne, hhead⟩ := hc w hw
    obtain ⟨d, w', hd⟩ := List.exists_cons_of_ne_nil hne
    rw [hd] at ht hhead
    simp only [List.cons_append, List.cons.injEq, true_and] at ht
    exact hhead (by rw [ht.1]; rfl)

/-- A run of alternatives that comes from active conditions. -/
def GoodRun (run : List Comparison) : Prop := run ≠ [] ∧ ∀ c ∈ run, c.Good

theorem separable_alternatives : Separable (fun run : List Comparison =>
    [' ', 'O', 'R', ' '].intercalate (run.map fun c => c.render.toList)) GoodRun Closes := by
  refine separable_comparison.joined (fun _ => stopsAt_cons.2 (by decide)) fun r hr => ?_
  obtain ⟨t, rfl⟩ := hr
  exact ⟨stopsAt_cons.2 (by decide), by simp⟩

theorem toList_renderRun (c d : Comparison) (run : List Comparison) :
    (Normal.renderRun (c :: d :: run)).toList = '(' :: ([' ', 'O', 'R', ' '].intercalate
      ((c :: d :: run).map fun c => c.render.toList) ++ [')']) := by
  simp [Normal.renderRun, Function.comp_def]

theorem render_ne_paren {c : Comparison} (hc : c.Good) (r s : List Char) :
    c.render.toList ++ r ≠ '(' :: s := by
  intro h
  obtain ⟨d, t, hd⟩ := List.exists_cons_of_ne_nil hc.field_ne
  have hname := hc.field d (by rw [hd]; exact List.mem_cons_self)
  rw [toList_render, hd, List.cons_append, List.cons_append, List.cons.injEq] at h
  rw [h.1] at hname
  exact absurd hname (by decide)

theorem separable_run :
    Separable (fun run => (Normal.renderRun run).toList) GoodRun (StopsAt isNumberChar) := by
  intro x y r s hx hy hr hs h
  match x, y with
  | [], _ => exact absurd rfl hx.1
  | _, [] => exact absurd rfl hy.1
  | [c], [d] =>
    obtain ⟨rfl, hrs⟩ := separable_comparison c d r s (hx.2 c List.mem_cons_self)
      (hy.2 d List.mem_cons_self) hr hs h
    exact ⟨rfl, hrs⟩
  | [c], d :: d' :: ds =>
    simp only [toList_renderRun, List.cons_append] at h
    exact absurd h (render_ne_paren (hx.2 c List.mem_cons_self) _ _)
  | c :: c' :: cs, [d] =>
    simp only [toList_renderRun, List.cons_append] at h
    exact absurd h.symm (render_ne_paren (hy.2 d List.mem_cons_self) _ _)
  | c :: c' :: cs, d :: d' :: ds =>
    simp only [toList_renderRun, List.cons_append, List.append_assoc, List.nil_append,
      List.cons.injEq, true_and] at h
    obtain ⟨hrun, hrs⟩ := separable_alternatives _ _ _ _ hx hy ⟨r, rfl⟩ ⟨s, rfl⟩ h
    exact ⟨hrun, (List.cons.inj hrs).2⟩

/-- What follows the conditions of a query. -/
def AfterClause : List Char → Prop := GoesOn ["ORDER BY ", "LIMIT "]

theorem separable_runs : Separable
    (fun runs => [' ', 'A', 'N', 'D', ' '].intercalate
      (runs.map fun run => (Normal.renderRun run).toList))
    (fun runs => runs ≠ [] ∧ ∀ run ∈ runs, GoodRun run) AfterClause :=
  separable_run.joined (fun _ => stopsAt_cons.2 (by decide)) fun _ hr =>
    ⟨hr.stopsAt (by decide), hr.not_next (by decide)⟩

/-- The conditions as they stand in the text, with the word before them. -/
def clauseText (runs : List (List Comparison)) : List Char :=
  (Query.part " WHERE " (" AND ".intercalate (runs.map Normal.renderRun))).toList

theorem renderRun_ne_empty (run : List Comparison) : Normal.renderRun run ≠ "" := by
  intro h
  have hlist := congrArg String.toList h
  match run with
  | [] => simp [Normal.renderRun] at hlist
  | [c] => simp [Normal.renderRun, toList_render] at hlist
  | c :: d :: run => simp [toList_renderRun] at hlist

theorem clauseText_of_ne_nil {runs : List (List Comparison)} (h : runs ≠ []) :
    clauseText runs = ' ' :: 'W' :: 'H' :: 'E' :: 'R' :: 'E' :: ' ' ::
      [' ', 'A', 'N', 'D', ' '].intercalate
        (runs.map fun run => (Normal.renderRun run).toList) := by
  obtain ⟨run, runs, rfl⟩ := List.exists_cons_of_ne_nil h
  have hne : " AND ".intercalate ((run :: runs).map Normal.renderRun) ≠ "" := by
    cases runs with
    | nil => simpa using renderRun_ne_empty run
    | cons run' runs => simp [renderRun_ne_empty]
  rw [clauseText, Query.part, if_neg (by simpa using hne)]
  simp [Function.comp_def]

theorem separable_clause : Separable clauseText (fun runs => ∀ run ∈ runs, GoodRun run)
    AfterClause := by
  intro x y r s hx hy hr hs h
  by_cases nx : x = [] <;> by_cases ny : y = []
  · subst nx ny
    exact ⟨rfl, h⟩
  · subst nx
    rw [clauseText_of_ne_nil ny] at h
    exact absurd ⟨_, h.symm⟩ (hr.not_next (c := 'W') (v := []) (by decide))
  · subst ny
    rw [clauseText_of_ne_nil nx] at h
    exact absurd ⟨_, h⟩ (hs.not_next (c := 'W') (v := []) (by decide))
  · rw [clauseText_of_ne_nil nx, clauseText_of_ne_nil ny] at h
    simp only [List.cons_append, List.cons.injEq, true_and] at h
    exact separable_runs x y r s ⟨nx, hx⟩ ⟨ny, hy⟩ hr hs h

theorem goesOn_clauseText {runs : List (List Comparison)} {r : List Char} (hr : AfterClause r) :
    GoesOn ["WHERE ", "ORDER BY ", "LIMIT "] (clauseText runs ++ r) := by
  by_cases h : runs = []
  · subst h
    exact hr.imp_right fun ⟨w, hw, hp⟩ => ⟨w, List.mem_cons_of_mem _ hw, hp⟩
  · refine Or.inr ⟨"WHERE ", List.mem_cons_self, ?_⟩
    rw [clauseText_of_ne_nil h]
    simp

/-! ### Order and limit -/

def sortText (o : SortOrder) : List Char := o.field.toList ++ ' ' :: o.direction.word.toList

theorem toList_renderOrder (o : Option SortOrder) : (Query.renderOrder o).toList =
    o.elim [] fun o => " ORDER BY ".toList ++ sortText o := by
  cases o <;> simp [Query.renderOrder, sortText]

theorem word_append_inj {a b : Direction} {r s : List Char}
    (h : a.word.toList ++ r = b.word.toList ++ s) : a = b ∧ r = s := by
  cases a <;> cases b <;> simp_all [Direction.word]

theorem separable_sortText :
    Separable sortText (fun o => IsName o.field) (GoesOn ["LIMIT "]) := by
  intro x y r s hx hy _ _ h
  obtain ⟨f, d⟩ := x
  obtain ⟨f', d'⟩ := y
  simp only [sortText, List.append_assoc, List.cons_append] at h
  obtain ⟨hf, h⟩ := separable_name _ _ _ _ hx hy (stopsAt_cons.2 (by decide))
    (stopsAt_cons.2 (by decide)) h
  obtain ⟨rfl, hrs⟩ := word_append_inj (List.cons.inj h).2
  exact ⟨by simp only at hf; rw [hf], hrs⟩

theorem toList_renderLimit (l : Option UInt32) : (Query.renderLimit l).toList =
    l.elim [] fun n => " LIMIT ".toList ++ (toString n.toNat).toList := by
  cases l <;> simp [Query.renderLimit]

theorem separable_number :
    Separable (fun n : UInt32 => (toString n.toNat).toList) (fun _ => True) (GoesOn []) := by
  intro x y r s _ _ hr hs h
  obtain rfl : r = [] := hr.resolve_right fun ⟨_, hw, _⟩ => absurd hw List.not_mem_nil
  obtain rfl : s = [] := hs.resolve_right fun ⟨_, hw, _⟩ => absurd hw List.not_mem_nil
  rw [List.append_nil, List.append_nil] at h
  exact ⟨UInt32.toNat_inj.1 (toString_eq_iff.1 (String.toList_inj.1 h)), rfl⟩

theorem separable_order : Separable (fun o => (Query.renderOrder o).toList)
    (fun o => ∀ x ∈ o, IsName x.field) (GoesOn ["LIMIT "]) := by
  simp only [toList_renderOrder]
  exact separable_sortText.optional fun _ hr => hr.not_next (c := 'O') (by decide)

theorem separable_limit :
    Separable (fun l => (Query.renderLimit l).toList) (fun _ => True) (GoesOn []) := by
  simp only [toList_renderLimit]
  intro x y r s _ _
  exact separable_number.optional (fun _ hr => hr.not_next (c := 'L') (by decide)) x y r s
    (fun _ _ => trivial) (fun _ _ => trivial)

/-! ### The whole text -/

/-- A normal form that comes from a well-formed query. -/
structure Normal.Good (n : Normal) : Prop where
  selected_ne : n.selected ≠ []
  selected : ∀ f ∈ n.selected, IsName f
  object : IsName n.object
  comparisons : ∀ c ∈ n.comparisons, c.Good
  joins : n.joins.length = n.comparisons.length - 1
  sorting : ∀ o ∈ n.sorting, IsName o.field

theorem goodRun_of_mem_runsOf {cs run : List Comparison} {joins : List Bool}
    (hcs : ∀ c ∈ cs, c.Good) (hrun : run ∈ runsOf cs joins) : GoodRun run := by
  refine ⟨ne_nil_of_mem_runsOf hrun, fun c hc => hcs c ?_⟩
  rw [← flatten_runsOf cs joins]
  exact List.mem_flatten_of_mem hrun hc

theorem separable_selected : Separable
    (fun fs : List String => [',', ' '].intercalate (fs.map String.toList))
    (fun fs => fs ≠ [] ∧ ∀ f ∈ fs, IsName f) (fun r => ∃ t, r = ' ' :: 'F' :: t) := by
  refine separable_name.joined (fun _ => stopsAt_cons.2 (by decide)) fun r hr => ?_
  obtain ⟨t, rfl⟩ := hr
  exact ⟨stopsAt_cons.2 (by decide), by simp⟩

theorem Normal.toList_compile (n : Normal) : n.compile.toList = "SELECT ".toList ++
    ([',', ' '].intercalate (n.selected.map String.toList) ++ (" FROM ".toList ++
      (n.object.toList ++ (clauseText (runsOf n.comparisons n.joins) ++
        ((Query.renderOrder n.sorting).toList ++ (Query.renderLimit n.rowLimit).toList))))) := by
  simp [Normal.compile, Normal.clause, clauseText]

theorem goesOn_renderLimit (l : Option UInt32) :
    GoesOn ["LIMIT "] (Query.renderLimit l).toList := by
  cases l with
  | none => exact Or.inl rfl
  | some n => exact Or.inr ⟨"LIMIT ", List.mem_cons_self, by simp [Query.renderLimit]⟩

theorem afterClause_renderOrder (o : Option SortOrder) {r : List Char} (hr : GoesOn ["LIMIT "] r) :
    AfterClause ((Query.renderOrder o).toList ++ r) := by
  cases o with
  | none => exact hr.imp_right fun ⟨w, hw, hp⟩ => ⟨w, List.mem_cons_of_mem _ hw, hp⟩
  | some o => exact Or.inr ⟨"ORDER BY ", List.mem_cons_self, by simp [Query.renderOrder]⟩

/-- Normal forms with one text are equal. -/
theorem Normal.compile_inj {n m : Normal} (hn : n.Good) (hm : m.Good)
    (h : n.compile = m.compile) : n = m := by
  have htext := congrArg String.toList h
  rw [n.toList_compile, m.toList_compile] at htext
  have hlimit (k : Normal) := goesOn_renderLimit k.rowLimit
  have horder (k : Normal) := afterClause_renderOrder k.sorting (hlimit k)
  have hclause (k : Normal) := @goesOn_clauseText (runsOf k.comparisons k.joins) _ (horder k)
  have hfrom (t : List Char) : ∃ t', " FROM ".toList ++ t = ' ' :: 'F' :: t' := ⟨_, rfl⟩
  obtain ⟨hselected, htext⟩ := separable_selected _ _ _ _ ⟨hn.selected_ne, hn.selected⟩
    ⟨hm.selected_ne, hm.selected⟩ (hfrom _) (hfrom _) (List.append_cancel_left htext)
  obtain ⟨hobject, htext⟩ := separable_name _ _ _ _ hn.object hm.object
    ((hclause n).stopsAt (by decide)) ((hclause m).stopsAt (by decide))
    (List.append_cancel_left htext)
  obtain ⟨hruns, htext⟩ := separable_clause _ _ _ _
    (fun _ => goodRun_of_mem_runsOf hn.comparisons) (fun _ => goodRun_of_mem_runsOf hm.comparisons)
    (horder n) (horder m) htext
  obtain ⟨hsorting, htext⟩ := separable_order _ _ _ _ hn.sorting hm.sorting (hlimit n) (hlimit m)
    htext
  obtain ⟨hrowLimit, -⟩ := separable_limit _ _ [] [] trivial trivial (Or.inl rfl) (Or.inl rfl)
    (congrArg (· ++ []) htext)
  obtain ⟨hcomparisons, hjoins⟩ := runsOf_inj hn.joins hm.joins hruns
  cases n
  cases m
  simp only [Normal.mk.injEq]
  exact ⟨hselected, hobject, hcomparisons, hjoins, hsorting, hrowLimit⟩

/-! ### Well-formed queries -/

theorem isName_selected {q : Query} (hq : q.WellFormed) : ∀ f ∈ q.selected, IsName f := by
  intro f hf
  rw [Query.selected] at hf
  split at hf
  · obtain rfl := List.mem_singleton.1 hf
    exact fun c hc => List.all_eq_true.1 (by decide : "Id".toList.all Filter.isFieldChar) c hc
  · obtain ⟨f', hf', rfl⟩ := List.mem_map.1 hf
    exact hq.fields f' (List.mem_filter.1 hf').1

theorem selected_ne_nil (q : Query) : q.selected ≠ [] := by
  rw [Query.selected]
  split
  · exact List.cons_ne_nil _ _
  · rename_i h
    simpa using h

theorem noQuote_of_mem_listItems {value v : String} (h : NoQuote value) (hv : v ∈ listItems value) :
    NoQuote v := by
  obtain ⟨piece, hpiece, rfl⟩ := List.mem_map.1 hv
  intro hq
  rw [String.toList_ofList] at hq
  exact h (mem_of_mem_pieces hpiece (mem_of_mem_trim hq))

theorem good_comparison {q : Query} (hq : q.WellFormed) {c : Condition}
    (hc : c ∈ activeConditions q.conditions) : c.comparison.Good where
  field_ne := by
    have hactive := (List.mem_filter.1 hc).2
    rw [Condition.isActive, Bool.and_eq_true, Bool.not_eq_true'] at hactive
    rw [Condition.comparison, ne_eq, String.toList_eq_nil_iff, stripped_eq_empty_iff, hactive.1]
    exact Bool.false_ne_true
  field := hq.conditionFields c hc
  operand := by
    rw [Condition.comparison, Condition.operand]
    split
    · rename_i hlist
      refine ⟨hlist, ?_, fun v hv => noQuote_of_mem_listItems (hq.noQuotes c hc) hv⟩
      rw [listItems, ne_eq, List.map_eq_nil_iff]
      exact pieces_ne_nil _ _
    · rename_i hlist
      rw [Bool.not_eq_true] at hlist
      exact ⟨hlist, hq.noQuotes c hc, fun hop => hq.noVariables c hc hop hlist⟩

theorem Query.WellFormed.good {q : Query} (hq : q.WellFormed) : q.normal.Good where
  selected_ne := selected_ne_nil q
  selected := isName_selected hq
  object := by
    rw [Query.normal, Query.objectName]
    split
    · have hname : "Account".toList.all Filter.isFieldChar = true := by decide
      exact List.all_eq_true.1 hname
    · exact hq.object
  comparisons := by
    intro c hc
    obtain ⟨c', hc', rfl⟩ := List.mem_map.1 hc
    exact good_comparison hq hc'
  joins := q.length_joins_normal
  sorting := by
    intro o ho
    rw [Query.normal, Query.sorting] at ho
    split at ho
    · rename_i o' ho'
      split at ho
      · exact absurd ho (by simp)
      · obtain rfl := Option.some.inj ho
        exact hq.sortField o' ho'
    · exact absurd ho (by simp)

/-- **The text of a query tells what the query says.** Two well-formed queries have one text
exactly when their normal forms are equal. -/
theorem compile_eq_iff_normal_eq {q r : Query} (hq : q.WellFormed) (hr : r.WellFormed) :
    q.compile = r.compile ↔ q.normal = r.normal := by
  rw [← q.compile_normal, ← r.compile_normal]
  constructor
  · exact Normal.compile_inj hq.good hr.good
  · intro h
    rw [h]

/-- A query typed with blanks, an unfinished condition and a conjunction at the end. -/
def looseLeads : Query :=
  ⟨" Lead ", ["Id", "", " Name "], [⟨"A", .isIn, "x,y", some .or⟩, ⟨"", .eq, "z", some .and⟩,
    ⟨" B", .ge, "5", some .or⟩], some ⟨" Name", .descending⟩, some 3⟩

def denseLeads : Query :=
  ⟨"Lead", ["Id", "Name"], [⟨"A", .isIn, " x , y ", some .or⟩, ⟨"B", .ge, "5", none⟩],
    some ⟨"Name", .descending⟩, some 3⟩

theorem looseLeads_compile_eq : looseLeads ≠ denseLeads ∧ looseLeads.WellFormed ∧
    denseLeads.WellFormed ∧ looseLeads.normal = denseLeads.normal ∧
    looseLeads.compile = denseLeads.compile := by
  have hl : looseLeads.WellFormed := by constructor <;> decide
  have hd : denseLeads.WellFormed := by constructor <;> decide
  have hn : looseLeads.normal = denseLeads.normal := by decide
  exact ⟨by decide, hl, hd, hn, (compile_eq_iff_normal_eq hl hd).2 hn⟩

end Soql
