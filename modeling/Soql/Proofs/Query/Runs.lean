/-
# The runs of a clause

The active conditions of a clause are cut into runs: the longest stretches in which every
condition joins its neighbour by OR. Runs of conditions one after another are the runs of each,
unless the conditions before end with an OR.

The clause can be gathered in one pass from the left. What is kept of the conditions that were
met are the finished runs, the run that is still open and the last conjunction.

Key definitions: `Gathering`, `Gathering.Gathers`.
Key theorems: `orRuns_eq_splitBy`, `orRuns_append`, `Gathering.Gathers.add`, `clause_eq_gathered`.
-/
import Soql.Query.Clause
import Mathlib.Data.List.SplitBy

namespace Soql

/-- The runs are the longest stretches of conditions that join their neighbours by OR. -/
theorem orRuns_eq_splitBy : ∀ cs : List Condition, orRuns cs = cs.splitBy fun c _ => c.joinsOr
  | [] => rfl
  | [c] => rfl
  | c :: d :: cs => by
    have ih := orRuns_eq_splitBy (d :: cs)
    rw [orRuns]
    split
    · rename_i hnil
      rw [hnil] at ih
      exact absurd (List.splitBy_eq_nil.1 ih.symm) (List.cons_ne_nil d cs)
    · rename_i run runs hruns
      rw [hruns] at ih
      split
      · rename_i hjoins
        obtain ⟨hflat, hne, hinside, hbetween⟩ := List.splitBy_eq_iff.1 ih.symm
        obtain ⟨e, run, rfl⟩ := List.exists_cons_of_ne_nil fun h => hne (h ▸ List.mem_cons_self)
        refine (List.splitBy_eq_iff.2 ⟨by rw [hflat]; rfl, by simpa using hne, ?_, ?_⟩).symm
        · rw [List.forall_mem_cons] at hinside ⊢
          exact ⟨.cons_cons hjoins hinside.1, hinside.2⟩
        · cases runs with
          | nil => exact .singleton _
          | cons r rs =>
            rw [List.isChain_cons_cons] at hbetween ⊢
            obtain ⟨⟨_, hr, hcut⟩, hrest⟩ := hbetween
            exact ⟨⟨List.cons_ne_nil _ _, hr, by simpa using hcut⟩, hrest⟩
      · rename_i hjoins
        have hcut := List.splitBy_append_cons (r := fun c _ => Condition.joinsOr c) (l := [c]) cs
          (a := d) (by simpa using hjoins)
        rw [← ih] at hcut
        exact hcut.symm

theorem orRuns_append {cs : List Condition} (h : ∀ c ∈ cs.getLast?, c.joinsOr = false)
    (ds : List Condition) : orRuns (cs ++ ds) = orRuns cs ++ orRuns ds := by
  simp only [orRuns_eq_splitBy]
  exact List.splitBy_append fun c hc _ _ => h c hc

/-- A condition that the last one joins by OR goes into the last run. -/
theorem orRuns_concat_of_joinsOr {c d : Condition} (hc : c.joinsOr = true) :
    ∀ {cs : List Condition}, cs.getLast? = some c →
      ∃ runs run, orRuns cs = runs ++ [run] ∧ orRuns (cs ++ [d]) = runs ++ [run ++ [d]]
  | [e], h => by
    obtain rfl : e = c := Option.some.inj h
    exact ⟨[], [e], rfl, by simp [orRuns, hc]⟩
  | e :: e' :: cs, h => by
    have hlast : (e' :: cs).getLast? = some c := by rwa [List.getLast?_cons_cons] at h
    obtain ⟨runs, run, hruns, hmore⟩ := orRuns_concat_of_joinsOr (d := d) hc hlast
    have hcons : ∀ {es : List Condition} {r rs}, orRuns es = r :: rs →
        orRuns (e :: es) = if e.joinsOr then (e :: r) :: rs else [e] :: r :: rs := fun hes => by
      rw [orRuns, hes]
    cases runs with
    | nil =>
      rw [List.cons_append, hcons hruns, hcons hmore]
      split
      · exact ⟨[], e :: run, rfl, rfl⟩
      · exact ⟨[[e]], run, rfl, rfl⟩
    | cons r rs =>
      rw [List.cons_append, hcons hruns, hcons hmore]
      split
      · exact ⟨(e :: r) :: rs, run, rfl, rfl⟩
      · exact ⟨[e] :: r :: rs, run, rfl, rfl⟩

/-! ### Gathering in one pass -/

/-- What was gathered of a clause so far. -/
structure Gathering where
  /-- The runs that are finished. -/
  units : List String
  /-- The conditions of the run that is still open. -/
  pending : List String
  /-- The conjunction of the condition that was met last. -/
  preceding : Option Conjunction
deriving DecidableEq, Repr

namespace Gathering

def start : Gathering := ⟨[], [], none⟩

/-- Finishes the open run. -/
def close (g : Gathering) : Gathering :=
  match g.pending with
  | [] => g
  | [text] => { g with units := g.units ++ [text], pending := [] }
  | texts => { g with units := g.units ++ ["(" ++ " OR ".intercalate texts ++ ")"], pending := [] }

/-- The next condition goes into the open run only after OR. -/
def add (g : Gathering) (c : Condition) : Gathering :=
  let g := if g.preceding = some .or then g else g.close
  { g with pending := g.pending ++ [c.render], preceding := c.conjunction }

/-- What was gathered of these conditions: their runs, the last of them open. -/
structure Gathers (g : Gathering) (cs : List Condition) : Prop where
  units : g.units = (orRuns cs).dropLast.map renderRun
  pending : g.pending = ((orRuns cs).getLast?.getD []).map Condition.render
  preceding : g.preceding = cs.getLast?.bind Condition.conjunction

variable {g : Gathering} {cs : List Condition}

theorem Gathers.close_units (h : g.Gathers cs) :
    g.close.units = (orRuns cs).map renderRun ∧ g.close.pending = [] := by
  obtain ⟨hunits, hpending, -⟩ := h
  rcases List.eq_nil_or_concat (orRuns cs) with hnil | ⟨runs, run, hruns⟩
  · rw [hnil] at hunits hpending ⊢
    simp [close, hunits, hpending]
  · have hne : run ≠ [] := ne_nil_of_mem_orRuns cs run (by simp [hruns])
    rw [hruns] at hunits hpending ⊢
    simp only [List.concat_eq_append, List.dropLast_concat, List.getLast?_concat,
      Option.getD_some] at hunits hpending
    match run, hne with
    | [c], _ => simp [close, hunits, hpending, renderRun]
    | c :: d :: run, _ => simp [close, hunits, hpending, renderRun]

/-- One more condition keeps what was gathered in step with the conditions. -/
theorem Gathers.add (h : g.Gathers cs) (d : Condition) : (g.add d).Gathers (cs ++ [d]) := by
  by_cases hor : g.preceding = some .or
  · obtain ⟨c, hlast, hc⟩ := Option.bind_eq_some_iff.1 (h.preceding.symm.trans hor)
    obtain ⟨runs, run, hruns, hmore⟩ := orRuns_concat_of_joinsOr (d := d)
      (show c.joinsOr = true by simp [Condition.joinsOr, hc]) hlast
    refine ⟨?_, ?_, by simp [Gathering.add]⟩
    · rw [hmore, List.dropLast_concat, Gathering.add, if_pos hor, h.units, hruns,
        List.dropLast_concat]
    · rw [hmore, Gathering.add, if_pos hor]
      simp [h.pending, hruns]
  · have hcut : ∀ c ∈ cs.getLast?, c.joinsOr = false := fun c hc => by
      rw [h.preceding, Option.mem_def.1 hc] at hor
      simpa [Condition.joinsOr] using hor
    obtain ⟨hunits, hpending⟩ := h.close_units
    refine ⟨?_, ?_, by simp [Gathering.add]⟩
    · rw [orRuns_append hcut, Gathering.add, if_neg hor]
      simp [hunits, orRuns]
    · rw [orRuns_append hcut, Gathering.add, if_neg hor]
      simp [hpending, orRuns]

/-- All conditions are gathered, one after another. -/
theorem Gathers.foldl (h : g.Gathers cs) : ∀ ds : List Condition,
    (ds.foldl Gathering.add g).Gathers (cs ++ ds) := by
  intro ds
  induction ds generalizing g cs with
  | nil => simpa using h
  | cons d ds ih => simpa using ih (h.add d)

theorem gathers_start : start.Gathers [] := ⟨rfl, rfl, rfl⟩

end Gathering

/-- The clause is what one pass gathers. -/
theorem clause_eq_gathered (cs : List Condition) :
    clause cs = " AND ".intercalate
      ((activeConditions cs).foldl Gathering.add .start).close.units := by
  have h := Gathering.gathers_start.foldl (activeConditions cs)
  rw [h.close_units.1, clause, List.nil_append]

end Soql
