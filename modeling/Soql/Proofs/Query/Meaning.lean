/-
# What a clause means

A clause has AND between its runs and OR inside of each, and a run of several conditions stands in
parentheses. So no AND stands at the level of an OR, and whichever of the two is taken to bind
closer, the clause holds exactly when every run has a condition that holds.

Key definitions: `Clause.runSigns`, `Clause.clauseSigns`.
Key theorems: `Clause.textOf_clauseSigns`, `Clause.reads_clauseSigns_iff`,
`Clause.word_of_clauseSigns`, `clause_means`.
-/
import Soql.Proofs.Query.Runs
import Soql.Proofs.Query.Signs

namespace Soql

namespace Clause

open Sign

variable {v : Condition → Bool} {b : Bool} {k : Conjunction}

/-! ### The signs of a clause -/

def runSigns : List Condition → List Sign
  | [c] => [.condition c]
  | run => .opening :: (joined .or (run.map fun c => [.condition c]) ++ [.closing])

/-- AND between the runs, OR inside of them. -/
def clauseSigns (runs : List (List Condition)) : List Sign := joined .and (runs.map runSigns)

def textOf (s : List Sign) : String := String.join (s.map Sign.text)

theorem textOf_append (s t : List Sign) : textOf (s ++ t) = textOf s ++ textOf t := by
  simp [textOf]

theorem textOf_cons (x : Sign) (s : List Sign) : textOf (x :: s) = x.text ++ textOf s := by
  simp [textOf]

theorem textOf_singleton (x : Sign) : textOf [x] = x.text := by
  simp [textOf]

theorem textOf_joined (k : Conjunction) (units : List (List Sign)) :
    textOf (joined k units) = (" " ++ k.word ++ " ").intercalate (units.map textOf) := by
  induction units with
  | nil => rfl
  | cons u units ih =>
    by_cases hnil : units = []
    · rw [hnil, joined_singleton, List.map_singleton, String.intercalate_singleton]
    · rw [joined_cons hnil, textOf_append, textOf_cons, ih, List.map_cons,
        String.intercalate_cons_of_ne_nil (by simpa using hnil), Sign.text]
      simp only [String.append_assoc]

theorem textOf_runSigns (run : List Condition) : textOf (runSigns run) = renderRun run := by
  have hmap : run.map (textOf ∘ fun c => [Sign.condition c]) = run.map Condition.render :=
    List.map_congr_left fun c _ => textOf_singleton _
  unfold runSigns
  split
  · exact textOf_singleton _
  · rename_i hmany
    rw [renderRun, textOf_cons, textOf_append, textOf_joined, List.map_map, hmap, textOf_singleton,
      String.append_assoc]
    · rfl
    · exact hmany

theorem textOf_clauseSigns (runs : List (List Condition)) :
    textOf (clauseSigns runs) = " AND ".intercalate (runs.map renderRun) := by
  rw [clauseSigns, textOf_joined, List.map_map]
  have hmap : runs.map (textOf ∘ runSigns) = runs.map renderRun :=
    List.map_congr_left fun run _ => textOf_runSigns run
  rw [hmap]
  rfl

/-- The conditions among the signs. -/
def conditionsIn (s : List Sign) : List Condition := s.filterMap Sign.condition?

theorem conditionsIn_joined (k : Conjunction) (units : List (List Sign)) :
    conditionsIn (joined k units) = (units.map conditionsIn).flatten := by
  induction units with
  | nil => rfl
  | cons u units ih =>
    by_cases hnil : units = []
    · simp [hnil, joined_singleton]
    · rw [joined_cons hnil, conditionsIn, List.filterMap_append, ← conditionsIn, List.map_cons,
        List.flatten_cons, ← ih]
      rfl

theorem conditionsIn_runSigns (run : List Condition) : conditionsIn (runSigns run) = run := by
  unfold runSigns
  split
  · rfl
  · have hinner := conditionsIn_joined .or (run.map fun c => [Sign.condition c])
    rw [conditionsIn] at hinner ⊢
    rw [List.filterMap_cons_none (by rfl), List.filterMap_append, hinner, List.map_map,
      List.filterMap_cons_none (by rfl), List.filterMap_nil, List.append_nil]
    simp [conditionsIn, Function.comp_def, Sign.condition?, ← List.flatMap_def]

theorem conditionsIn_clauseSigns (runs : List (List Condition)) :
    conditionsIn (clauseSigns runs) = runs.flatten := by
  rw [clauseSigns, conditionsIn_joined, List.map_map]
  have hmap : runs.map (conditionsIn ∘ runSigns) = runs :=
    (List.map_congr_left fun run _ => conditionsIn_runSigns run).trans (List.map_id runs)
  rw [hmap]

theorem balanced_alternatives (run : List Condition) :
    Balanced (joined .or (run.map fun c => [Sign.condition c])) :=
  .joined (List.forall_mem_map.2 fun c _ => (solid_condition c).toBalanced)

theorem solid_runSigns (run : List Condition) : Solid (runSigns run) := by
  unfold runSigns
  split
  · exact solid_condition _
  · exact (balanced_alternatives run).solid_parens

/-- A run is read as true exactly when one of its conditions is. -/
theorem reads_runSigns_iff {run : List Condition} (hne : run ≠ []) :
    Reads v (runSigns run) b ↔ b = run.any v := by
  have hone : ∀ c b, Reads v [Sign.condition c] b → b = v c := by
    intro c b h
    generalize hs : [Sign.condition c] = s at h
    cases h with
    | condition c' => rw [Sign.condition.inj (List.singleton_inj.1 hs)]
    | parens _ => simp at hs
    | word left _ =>
      rcases List.singleton_eq_append_iff.1 hs with ⟨hnil, -⟩ | ⟨-, hnil⟩
      · exact absurd hnil left.ne_nil
      · exact absurd hnil (List.cons_ne_nil _ _)
  have htotal : Conjunction.or.total (run.map v) = run.any v := by simp [Conjunction.total]
  have hread : Reads v (joined .or (run.map fun c => [Sign.condition c])) (run.any v) :=
    htotal ▸ Reads.joined hne fun c _ => .condition c
  have hall : ∀ b, Reads v (joined .or (run.map fun c => [Sign.condition c])) b → b = run.any v :=
    fun b h => htotal ▸ h.eq_total (fun c _ => solid_condition c) fun c _ => hone c
  unfold runSigns
  split
  · simpa using ⟨hone _ b, fun h => h ▸ .condition _⟩
  · rw [reads_parens_iff (balanced_alternatives run)]
    exact ⟨hall b, fun h => h ▸ hread⟩

/-- **The clause holds exactly when every run has a condition that holds,** however it is read. -/
theorem reads_clauseSigns_iff {runs : List (List Condition)} (hne : runs ≠ [])
    (hruns : ∀ run ∈ runs, run ≠ []) :
    Reads v (clauseSigns runs) b ↔ b = runs.all fun run => run.any v := by
  have htotal : Conjunction.and.total (runs.map fun run => run.any v) =
      runs.all fun run => run.any v := by
    rw [Conjunction.total, List.all_map]
    rfl
  rw [← htotal]
  constructor
  · exact Reads.eq_total (fun run _ => solid_runSigns run)
      fun run hrun b => (reads_runSigns_iff (hruns run hrun)).1
  · rintro rfl
    exact Reads.joined hne fun run hrun => (reads_runSigns_iff (hruns run hrun)).2 rfl

/-- AND stands outside of all parentheses, and OR in one pair of them. -/
theorem word_of_clauseSigns {runs : List (List Condition)} {p q : List Sign}
    (h : clauseSigns runs = p ++ Sign.word k :: q) :
    (depth p = 0 ∧ k = .and) ∨ (depth p = 1 ∧ k = .or) := by
  have hbalanced : ∀ u ∈ runs.map runSigns, Balanced u :=
    List.forall_mem_map.2 fun run _ => (solid_runSigns run).toBalanced
  rcases word_of_joined hbalanced h with ⟨rfl, hzero, -⟩ | ⟨u, hu, p', q', hword, hdepth⟩
  · exact .inl ⟨hzero, rfl⟩
  · obtain ⟨run, -, rfl⟩ := List.mem_map.1 hu
    unfold runSigns at hword
    split at hword
    · exact absurd hword (condition_ne_word _ _ _ _)
    · obtain ⟨p, q, hinside, hone⟩ := word_of_parens hword
      have hbare : ∀ u ∈ run.map (fun c => [Sign.condition c]), Balanced u :=
        List.forall_mem_map.2 fun c _ => (solid_condition c).toBalanced
      rcases word_of_joined hbare hinside with ⟨rfl, hzero, -⟩ | ⟨u, hu, p, q, hword, -⟩
      · exact .inr ⟨by rw [hdepth, hone, hzero]; rfl, rfl⟩
      · obtain ⟨c, -, rfl⟩ := List.mem_map.1 hu
        exact absurd hword (condition_ne_word c p q k)

end Clause

open Clause

/-! ### The clause -/

/-- A clause is AND between the longest stretches of OR. Every active condition stands in it once
and in order, AND and OR never stand at the same level, and however the words are bound, it holds
exactly when every run has a condition that holds. Clauses are put together by AND, unless the
first of them ends with an OR. -/
theorem clause_means (cs : List Condition) :
    let runs := (activeConditions cs).splitBy fun c _ => c.joinsOr
    clause cs = " AND ".intercalate (runs.map renderRun) ∧
    clause cs = " AND ".intercalate
      ((activeConditions cs).foldl Gathering.add .start).close.units ∧
    (textOf (clauseSigns runs) = clause cs ∧
      conditionsIn (clauseSigns runs) = activeConditions cs) ∧
    (∀ p k q, clauseSigns runs = p ++ Sign.word k :: q →
      (depth p = 0 ∧ k = .and) ∨ (depth p = 1 ∧ k = .or)) ∧
    (activeConditions cs ≠ [] → ∀ v b,
      Reads v (clauseSigns runs) b ↔ b = runs.all fun run => run.any v) ∧
    ∀ ds, activeConditions cs ≠ [] → activeConditions ds ≠ [] →
      (∀ c ∈ (activeConditions cs).getLast?, c.conjunction ≠ some .or) →
      clause (cs ++ ds) = clause cs ++ " AND " ++ clause ds := by
  intro runs
  have hruns : orRuns (activeConditions cs) = runs := orRuns_eq_splitBy _
  have hclause : clause cs = " AND ".intercalate (runs.map renderRun) := by rw [clause, hruns]
  refine ⟨hclause, clause_eq_gathered cs, ⟨?_, ?_⟩, fun p k q h => word_of_clauseSigns h,
    fun hne v b => ?_, fun ds hcs hds hlast => ?_⟩
  · rw [textOf_clauseSigns, hclause]
  · rw [conditionsIn_clauseSigns, ← hruns, flatten_orRuns]
  · refine reads_clauseSigns_iff (List.splitBy_ne_nil.2 hne) fun run hrun => ?_
    exact List.ne_nil_of_mem_splitBy hrun
  · have hcut : ∀ c ∈ (activeConditions cs).getLast?, c.joinsOr = false := fun c hc => by
      simpa [Condition.joinsOr] using hlast c hc
    have hne : ∀ {es : List Condition}, es ≠ [] → (orRuns es).map renderRun ≠ [] := fun h hnil =>
      h (List.splitBy_eq_nil.1 ((orRuns_eq_splitBy _).symm.trans (List.map_eq_nil_iff.1 hnil)))
    have happend : activeConditions (cs ++ ds) = activeConditions cs ++ activeConditions ds :=
      List.filter_append ..
    rw [clause, happend, orRuns_append hcut, List.map_append,
      String.intercalate_append_of_ne_nil (hne hcs) (hne hds)]
    rfl

/-- Alternatives across a condition that is not active, before a clause with a list of values. -/
theorem clause_means_acrossInactive :
    let cs : List Condition := [⟨"A", .eq, "1", some .or⟩, ⟨" ", .eq, "x", some .and⟩,
      ⟨"B", .ne, "x AND y", none⟩]
    let ds : List Condition := [⟨"C", .isIn, "x, y", some .or⟩]
    activeConditions cs ≠ [] ∧ activeConditions ds ≠ [] ∧
      (∀ c ∈ (activeConditions cs).getLast?, c.conjunction ≠ some .or) ∧
      clause cs = "(A = 1 OR B != 'x AND y')" ∧
      clause (cs ++ ds) = "(A = 1 OR B != 'x AND y') AND C IN ('x', 'y')" ∧
      ∀ v b, Reads v (clauseSigns [[⟨"A", .eq, "1", some .or⟩, ⟨"B", .ne, "x AND y", none⟩]]) b ↔
        b = (v ⟨"A", .eq, "1", some .or⟩ || v ⟨"B", .ne, "x AND y", none⟩) := by
  intro cs ds
  obtain ⟨hclause, -, -, -, hreads, happend⟩ := clause_means cs
  have hcs : activeConditions cs ≠ [] := by decide
  have hds : activeConditions ds ≠ [] := by decide
  have hlast : ∀ c ∈ (activeConditions cs).getLast?, c.conjunction ≠ some .or := by decide
  have hleft : clause cs = "(A = 1 OR B != 'x AND y')" := by decide
  have hright : clause ds = "C IN ('x', 'y')" := by decide
  refine ⟨hcs, hds, hlast, hleft, ?_, fun v b => ?_⟩
  · rw [happend ds hcs hds hlast, hleft, hright]
    rfl
  · have hruns : ((activeConditions cs).splitBy fun c _ => c.joinsOr) =
        [[⟨"A", .eq, "1", some .or⟩, ⟨"B", .ne, "x AND y", none⟩]] := by decide
    rw [← hruns, hreads hcs v b, hruns]
    simp

end Soql
