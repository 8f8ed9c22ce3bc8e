/-
# A form under changes

Whatever changes are made to a form, its text is that of the query it describes, its rows are a
list under the same changes, and the query is in good order: incomplete rows are gone, names are
trimmed, and the last condition joins nothing. None of that tidying shows in the text, which is
that of the rows as they were typed. So the text depends on what was set last and on the rows,
and not on the way there.

Key definitions: `Form.Change`, `Form.run`, `Form.rowsAfter`, `Form.last`, `Query.InOrder`.
Key theorems: `Form.apply_current`, `Form.compile_asTyped`, `Form.query_inOrder`,
`Form.always_current`.
-/
import Soql.Query.Form
import Soql.Proofs.Query.Normal
import Soql.Proofs.Text.Trim

namespace Soql

open Text

namespace Form

inductive Change where
  | setObject (name : String)
  | setFields (names : List String)
  | addRow
  | pushRow (row : Row)
  | updateRow (index : Nat) (row : Row)
  | removeRow (index : Nat)
  | setSortField (name : String)
  | setDirection (d : Direction)
  | setLimit (typed : String)
deriving DecidableEq, Repr

/-- The form after a change; without the row that it is about, the form as it is. -/
def Change.apply : Change → Form → Form
  | .setObject name, f => f.setObject name
  | .setFields names, f => f.setFields names
  | .addRow, f => f.addRow
  | .pushRow row, f => f.pushRow row
  | .updateRow index row, f => (f.updateRow? index row).getD f
  | .removeRow index, f => ((f.removeRow? index).map (·.2)).getD f
  | .setSortField name, f => f.setSortField name
  | .setDirection d, f => f.setDirection d
  | .setLimit typed, f => f.setLimit typed

/-- The form after changes one after another. -/
def run (changes : List Change) (f : Form) : Form := changes.foldl (fun f c => c.apply f) f

/-- The same changes of a list of rows. -/
def rowsAfter (changes : List Change) (rows : List Row) : List Row :=
  changes.foldl (fun rows c =>
    match c with
    | .addRow => rows ++ [.blank]
    | .pushRow row => rows ++ [row]
    | .updateRow index row => if index < rows.length then rows.set index row else rows
    | .removeRow index => if index < rows.length then rows.eraseIdx index else rows
    | _ => rows) rows

/-! ### What was set last -/

/-- The last of the values that are picked out of the changes, or the value at the start. -/
def last {α : Type} (pick : Change → Option α) (start : α) (changes : List Change) : α :=
  (changes.filterMap pick).getLast?.getD start

namespace Change

def object? : Change → Option String
  | .setObject name => some name
  | _ => none

def fields? : Change → Option (List String)
  | .setFields names => some names
  | _ => none

def sortField? : Change → Option String
  | .setSortField name => some name
  | _ => none

def direction? : Change → Option Direction
  | .setDirection d => some d
  | _ => none

def limit? : Change → Option String
  | .setLimit typed => some typed
  | _ => none

end Change

/-! ### One change -/

theorem updateRow?_eq_none_iff (index : Nat) (row : Row) (f : Form) :
    f.updateRow? index row = none ↔ f.rows.length ≤ index := by
  rw [updateRow?, ← Nat.not_lt]
  split <;> simp_all

theorem removeRow?_eq_none_iff (index : Nat) (f : Form) :
    f.removeRow? index = none ↔ f.rows.length ≤ index := by
  rw [removeRow?, Option.map_eq_none_iff, List.getElem?_eq_none_iff]

/-- A change brings the text up to date, and does nothing only when its row is missing. -/
theorem apply_cases (c : Change) (f : Form) :
    (∃ g : Form, c.apply f = g.refresh) ∨ c.apply f = f := by
  cases c with
  | updateRow index row =>
    rw [Change.apply, updateRow?]
    split
    · exact .inl ⟨_, rfl⟩
    · exact .inr rfl
  | removeRow index =>
    rw [Change.apply, removeRow?]
    cases f.rows[index]? with
    | some row => exact .inl ⟨_, rfl⟩
    | none => exact .inr rfl
  | _ => exact .inl ⟨_, rfl⟩

theorem apply_current (c : Change) {f : Form} (h : f.text = f.query.compile) :
    (c.apply f).text = (c.apply f).query.compile := by
  rcases apply_cases c f with ⟨g, hg⟩ | hf
  · rw [hg]
    rfl
  · rwa [hf]

theorem rows_apply (c : Change) (f : Form) : (c.apply f).rows = rowsAfter [c] f.rows := by
  cases c with
  | updateRow index row =>
    rw [Change.apply, updateRow?]
    simp only [rowsAfter, List.foldl_cons, List.foldl_nil]
    split <;> rfl
  | removeRow index =>
    simp only [Change.apply, removeRow?, rowsAfter, List.foldl_cons, List.foldl_nil]
    by_cases h : index < f.rows.length
    · rw [if_pos h, List.getElem?_eq_getElem h]
      rfl
    · rw [if_neg h, List.getElem?_eq_none (Nat.le_of_not_lt h)]
      rfl
  | _ => rfl

/-- A part of a form that changes set is what was set last. -/
theorem get_run {α β : Type} {pick : Change → Option α} {g : α → β} {get : Form → β}
    (h : ∀ c f, get (c.apply f) = ((pick c).map g).getD (get f)) :
    ∀ (changes : List Change) (f : Form) (start : α), get f = g start →
      get (run changes f) = g (last pick start changes)
  | [], _, _, hf => hf
  | c :: changes, f, start, hf => by
    have hc := h c f
    cases hpick : pick c with
    | none =>
      rw [hpick] at hc
      have ih := get_run h changes (c.apply f) start (hc.trans hf)
      rw [last, List.filterMap_cons_none hpick]
      exact ih
    | some x =>
      rw [hpick] at hc
      have ih := get_run h changes (c.apply f) x hc
      rw [last, List.filterMap_cons_some hpick, List.getLast?_cons]
      exact ih

theorem rows_run : ∀ (changes : List Change) (f : Form),
    (run changes f).rows = rowsAfter changes f.rows
  | [], _ => rfl
  | c :: changes, f => by
    have ih := rows_run changes (c.apply f)
    rw [rows_apply] at ih
    exact ih

theorem run_current {f : Form} (h : f.text = f.query.compile) (changes : List Change) :
    (run changes f).text = (run changes f).query.compile := by
  induction changes generalizing f with
  | nil => exact h
  | cons c changes ih => exact ih (apply_current c h)

/-! ### The conditions of a form -/

theorem mem_endChain {c : Condition} : ∀ {cs : List Condition}, c ∈ endChain cs →
    ∃ d ∈ cs, c.field = d.field ∧ c.value = d.value
  | [d], h => ⟨d, List.mem_cons_self, by rw [List.mem_singleton.1 h]; exact ⟨rfl, rfl⟩⟩
  | d :: e :: cs, h => by
    rcases List.mem_cons.1 h with rfl | h
    · exact ⟨c, List.mem_cons_self, rfl, rfl⟩
    · obtain ⟨d', hd', hc⟩ := mem_endChain h
      exact ⟨d', List.mem_cons_of_mem d hd', hc⟩

/-- Only the last condition is changed. -/
theorem dropLast_endChain : ∀ cs : List Condition, (endChain cs).dropLast = cs.dropLast
  | [] => rfl
  | [_] => rfl
  | c :: d :: cs => by
    have ih := dropLast_endChain (d :: cs)
    have hne : endChain (d :: cs) ≠ [] := by
      cases cs <;> exact List.cons_ne_nil _ _
    rw [endChain, List.dropLast_cons_of_ne_nil hne, ih, List.dropLast_cons_cons]

theorem conjunction_getLast_endChain {c : Condition} : ∀ {cs : List Condition},
    c ∈ (endChain cs).getLast? → c.conjunction = none
  | [d], h => by
    rw [endChain, List.getLast?_singleton, Option.mem_some_iff] at h
    rw [← h]
  | d :: e :: cs, h => by
    have ih := @conjunction_getLast_endChain c (e :: cs)
    have hne : endChain (e :: cs) ≠ [] := by
      cases cs <;> exact List.cons_ne_nil _ _
    refine ih ?_
    rw [endChain, List.getLast?_cons, List.getLast?_eq_some_getLast hne] at h
    rw [List.getLast?_eq_some_getLast hne]
    exact h

/-- The conjunction of the last condition is not looked at in a comparison. -/
theorem map_comparison_endChain : ∀ cs : List Condition,
    (endChain cs).map Condition.comparison = cs.map Condition.comparison
  | [] => rfl
  | [_] => rfl
  | c :: d :: cs => by
    rw [endChain, List.map_cons, map_comparison_endChain (d :: cs)]
    rfl

theorem isActive_toCondition (r : Row) : r.toCondition.isActive = r.isComplete := by
  rw [Condition.isActive, Row.toCondition, isBlankString_stripped, Row.isComplete]

theorem isActive_of_mem_conditions {f : Form} {c : Condition} (h : c ∈ f.conditions) :
    c.isActive = true ∧ stripped c.field = c.field := by
  obtain ⟨d, hd, hfield, hvalue⟩ := mem_endChain h
  obtain ⟨r, hr, rfl⟩ := List.mem_map.1 hd
  have hcomplete := (List.mem_filter.1 hr).2
  rw [← isActive_toCondition] at hcomplete
  refine ⟨by rwa [Condition.isActive, hfield, hvalue], ?_⟩
  rw [hfield, Row.toCondition, stripped_stripped]

theorem activeConditions_conditions (f : Form) : activeConditions f.conditions = f.conditions :=
  List.filter_eq_self.2 fun _ h => (isActive_of_mem_conditions h).1

end Form

/-! ### The text of the rows as they were typed -/

/-- A row as a condition, filled in or not. -/
def Row.asTyped (r : Row) : Condition := ⟨r.field, r.operator, r.value, some r.conjunction⟩

namespace Form

/-- The query with all rows in it, as they were typed. -/
def asTyped (f : Form) : Query := { f.query with conditions := f.rows.map Row.asTyped }

theorem activeConditions_asTyped (rows : List Row) :
    activeConditions (rows.map Row.asTyped) = (rows.filter Row.isComplete).map Row.asTyped := by
  rw [activeConditions, List.filter_map]
  rfl

theorem comparison_toCondition (r : Row) : r.toCondition.comparison = r.asTyped.comparison := by
  rw [Condition.comparison, Row.toCondition, stripped_stripped]
  rfl

/-- The rows as they were typed say what the tidied conditions say. -/
theorem normal_asTyped (f : Form) : f.asTyped.normal = f.query.normal := by
  have hcomparisons : (activeConditions (f.rows.map Row.asTyped)).map Condition.comparison =
      (activeConditions f.conditions).map Condition.comparison := by
    rw [activeConditions_asTyped, activeConditions_conditions, conditions,
      map_comparison_endChain, List.map_map, List.map_map]
    exact List.map_congr_left fun r _ => (comparison_toCondition r).symm
  have hjoins : joinsOf (activeConditions (f.rows.map Row.asTyped)) =
      joinsOf (activeConditions f.conditions) := by
    rw [activeConditions_asTyped, activeConditions_conditions, conditions, joinsOf, joinsOf,
      dropLast_endChain, ← List.map_dropLast, ← List.map_dropLast, List.map_map, List.map_map]
    rfl
  simp only [Query.normal, asTyped, query, hcomparisons, hjoins]
  rfl

theorem compile_asTyped (f : Form) : f.asTyped.compile = f.query.compile := by
  rw [← Query.compile_normal, normal_asTyped, Query.compile_normal]

end Form

/-! ### Queries in good order -/

/-- Nothing in the query is left to be filled in or to be trimmed, and only the last condition
joins nothing. -/
structure Query.InOrder (q : Query) : Prop where
  fields : q.fields ≠ []
  active : ∀ c ∈ q.conditions, c.isActive = true
  trimmed : ∀ c ∈ q.conditions, stripped c.field = c.field
  joined : ∀ c ∈ q.conditions.dropLast, ∃ k, c.conjunction = some k
  ended : ∀ c ∈ q.conditions.getLast?, c.conjunction = none
  order : ∀ o ∈ q.order, stripped o.field = o.field ∧ o.field ≠ ""
  limit : ∀ n ∈ q.limit, 0 < n

namespace Form

theorem pos_of_readLimit? {typed : String} {n : UInt32} (h : readLimit? typed = some n) :
    0 < n := by
  unfold readLimit? at h
  split at h
  · rename_i m _
    split at h
    · rename_i hm
      obtain rfl := Option.some.inj h
      rw [UInt32.lt_iff_toNat_lt, UInt32.toNat_ofNat_of_lt' hm.2]
      exact hm.1
    · cases h
  · cases h

theorem query_inOrder {f : Form} (h : f.fields ≠ []) : f.query.InOrder where
  fields := h
  active c hc := (isActive_of_mem_conditions hc).1
  trimmed c hc := (isActive_of_mem_conditions hc).2
  joined c hc := by
    rw [query, conditions, dropLast_endChain, ← List.map_dropLast] at hc
    obtain ⟨r, -, rfl⟩ := List.mem_map.1 hc
    exact ⟨r.conjunction, rfl⟩
  ended c hc := conjunction_getLast_endChain hc
  order o ho := by
    have ho : o ∈ f.order := ho
    unfold Form.order at ho
    split at ho
    · cases ho
    · rename_i hblank
      obtain rfl := Option.some.inj ho
      exact ⟨stripped_stripped _, fun he => hblank ((stripped_eq_empty_iff _).1 he)⟩
  limit n hn := pos_of_readLimit? hn

/-! ### What a form says after changes -/

/-- What `setFields` makes of a selection. -/
def selection (names : List String) : List String :=
  if names.isEmpty then [Query.defaultField] else names

theorem selection_ne_nil (names : List String) : selection names ≠ [] := by
  unfold selection
  split
  · exact List.cons_ne_nil _ _
  · simp_all

/-- The parts of a form are those that were set last. -/
theorem parts_run (changes : List Change) :
    let f := run changes new
    f.object = last Change.object? "" changes ∧
    f.fields = selection (last Change.fields? [Query.defaultField] changes) ∧
    f.sortField = last Change.sortField? "" changes ∧
    f.direction = last Change.direction? Direction.ascending changes ∧
    f.limitText = last Change.limit? "" changes := by
  refine ⟨get_run (g := id) ?_ changes new "" rfl, get_run ?_ changes new _ rfl,
    get_run (g := id) ?_ changes new "" rfl, get_run (g := id) ?_ changes new _ rfl,
    get_run (g := id) ?_ changes new "" rfl⟩
  all_goals
    intro c f
    cases c with
    | updateRow index row =>
      rw [Change.apply, updateRow?]
      split <;> rfl
    | removeRow index =>
      rw [Change.apply, removeRow?]
      cases f.rows[index]? <;> rfl
    | _ => rfl

/-- The query of a form is told by what was set last and by the rows. -/
theorem query_run (changes : List Change) :
    (run changes new).query =
      let f : Form := ⟨last Change.object? "" changes,
        selection (last Change.fields? [Query.defaultField] changes), rowsAfter changes [],
        last Change.sortField? "" changes, last Change.direction? Direction.ascending changes,
        last Change.limit? "" changes, ""⟩
      f.query := by
  obtain ⟨hobject, hfields, hsort, hdirection, hlimit⟩ := parts_run changes
  have hrows : (run changes new).rows = rowsAfter changes [] := rows_run changes new
  simp only [query, conditions, order, hobject, hfields, hsort, hdirection, hlimit, hrows]

/-- After any changes the text is that of the query, the rows are a list under the same changes, a
change of a row that is not there fails and changes nothing, the query is in good order, and its
text is that of all rows as they were typed. Changes that end with the same rows, and with the same
settings, end with the same text. -/
theorem always_current (changes : List Change) :
    let f := run changes new
    f.text = f.query.compile ∧
    f.rows = rowsAfter changes [] ∧
    (∀ index row, (f.updateRow? index row = none ↔ f.rows.length ≤ index) ∧
      (f.removeRow? index).map (·.1) = f.rows[index]? ∧
      (f.rows.length ≤ index →
        (Change.updateRow index row).apply f = f ∧ (Change.removeRow index).apply f = f)) ∧
    f.query.InOrder ∧
    f.text = { f.query with conditions := f.rows.map Row.asTyped }.compile ∧
    ∀ changes' : List Change,
      last Change.object? "" changes = last Change.object? "" changes' →
      last Change.fields? [Query.defaultField] changes =
        last Change.fields? [Query.defaultField] changes' →
      last Change.sortField? "" changes = last Change.sortField? "" changes' →
      last Change.direction? Direction.ascending changes =
        last Change.direction? Direction.ascending changes' →
      last Change.limit? "" changes = last Change.limit? "" changes' →
      rowsAfter changes [] = rowsAfter changes' [] → f.text = (run changes' new).text := by
  intro f
  have hcurrent : f.text = f.query.compile := run_current rfl changes
  refine ⟨hcurrent, rows_run changes new, fun index row => ⟨?_, ?_, fun hindex => ⟨?_, ?_⟩⟩, ?_,
    ?_, fun changes' hobject hfields hsort hdirection hlimit hrows => ?_⟩
  · exact updateRow?_eq_none_iff index row f
  · rw [removeRow?, Option.map_map]
    exact Option.map_id'
  · rw [Change.apply, (updateRow?_eq_none_iff index row f).2 hindex]
    rfl
  · rw [Change.apply, (removeRow?_eq_none_iff index f).2 hindex]
    rfl
  · refine query_inOrder ?_
    rw [(parts_run changes).2.1]
    exact selection_ne_nil _
  · exact hcurrent.trans (compile_asTyped f).symm
  · have hcurrent' : (run changes' new).text = (run changes' new).query.compile :=
      run_current rfl changes'
    rw [hcurrent, hcurrent', query_run, query_run, hobject, hfields, hsort, hdirection, hlimit,
      hrows]

/-- Rows are filled in behind a blank one and taken out again, or there were no others. -/
theorem always_current_otherWay :
    let changes : List Change := [.addRow, .pushRow ⟨" A ", .eq, "1", .or⟩, .setLimit "x",
      .pushRow ⟨"B", .gt, "", .and⟩, .pushRow ⟨"B", .gt, "2", .or⟩, .removeRow 2,
      .updateRow 7 .blank, .setLimit " 25 "]
    let changes' : List Change := [.setLimit " 25 ", .addRow, .addRow,
      .updateRow 1 ⟨" A ", .eq, "1", .or⟩, .pushRow ⟨"B", .gt, "2", .or⟩]
    (run changes new).text = (run changes' new).text ∧
      (run changes new).text = "SELECT Id FROM Account WHERE (A = 1 OR B > 2) LIMIT 25" := by
  intro changes changes'
  obtain ⟨hcurrent, -, -, -, -, hsame⟩ := always_current changes
  refine ⟨hsame changes' rfl rfl rfl rfl rfl (by decide), hcurrent.trans ?_⟩
  decide

end Form

end Soql
