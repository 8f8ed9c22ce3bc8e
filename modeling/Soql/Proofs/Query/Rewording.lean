/-
# Saying a query in other words

A rewording changes one thing in a query: blanks around a name, a condition that is not active, the
conjunction of the last condition that is, or a part that stands for the same as a part that is left
out. To normalize a query is to do all of that at once. Two queries are rewordings of each other
exactly when they are equal after that (`Query.reworded_iff`), and then they have one text.

The conditions are normalized one by one, from the left, with the conditions before them already in
their final form (`Query.reworded_kept`). What is left to do is to take the conjunction off the last
one, and that is a rewording only when all that are not active are gone.

Key definitions: `Query.Rewording`, `Query.Reworded`, `Query.normalized`.
Key theorems: `Query.Rewording.normalized_eq`, `Query.reworded_normalized`, `Query.reworded_iff`,
`Query.normal_normalized`, `Query.compile_reworded`.
-/
import Mathlib.Logic.Relation
import Soql.Proofs.Query.Form

namespace Soql

open Form

/-! ### Conditions -/

namespace Condition

/-- The condition with its field trimmed, and with no conjunction in the place of AND. -/
def normalized (c : Condition) : Condition :=
  ⟨stripped c.field, c.operator, c.value, if c.joinsOr then some .or else none⟩

theorem isActive_normalized (c : Condition) : c.normalized.isActive = c.isActive := by
  rw [isActive, normalized, isBlankString_stripped, isActive]

theorem joinsOr_normalized (c : Condition) : c.normalized.joinsOr = c.joinsOr := by
  rw [joinsOr, normalized]
  cases c.joinsOr <;> rfl

theorem normalized_normalized (c : Condition) : c.normalized.normalized = c.normalized := by
  rw [normalized, joinsOr_normalized, normalized, stripped_stripped]

theorem comparison_normalized (c : Condition) : c.normalized.comparison = c.comparison := by
  rw [comparison, normalized, stripped_stripped]
  rfl

theorem normalized_padded {x y : String} (hx : isBlankString x = true) (hy : isBlankString y = true)
    (c : Condition) : { c with field := x ++ c.field ++ y }.normalized = c.normalized := by
  rw [normalized, stripped_padded hx hy]
  rfl

theorem normalized_joinedBy_and {c : Condition} (h : c.conjunction = none) :
    (c.joinedBy (some .and)).normalized = c.normalized := by
  simp [normalized, joinsOr, joinedBy, h]

end Condition

/-- The active conditions, each of them normalized. -/
def kept (cs : List Condition) : List Condition := (activeConditions cs).map Condition.normalized

section Conditions

variable {a b cs : List Condition} {c d : Condition}

theorem kept_append (a b : List Condition) : kept (a ++ b) = kept a ++ kept b := by
  rw [kept, activeConditions, List.filter_append, List.map_append]
  rfl

theorem kept_cons_of_active (h : c.isActive = true) (cs : List Condition) :
    kept (c :: cs) = c.normalized :: kept cs := by
  rw [kept, activeConditions, List.filter_cons_of_pos h]
  rfl

theorem kept_cons_of_idle (h : c.isActive = false) (cs : List Condition) :
    kept (c :: cs) = kept cs := by
  rw [kept, activeConditions, List.filter_cons_of_neg (by rw [h]; decide)]
  rfl

theorem kept_eq_nil (h : ∀ c ∈ cs, c.isActive = false) : kept cs = [] := by
  rw [kept, activeConditions, List.filter_eq_nil_iff.2 fun c hc => by rw [h c hc]; decide]
  rfl

/-- Conditions that are normalized to the same are kept alike. -/
theorem kept_cons_congr (h : c.normalized = d.normalized) (cs : List Condition) :
    kept (c :: cs) = kept (d :: cs) := by
  have hactive : c.isActive = d.isActive := by
    rw [← c.isActive_normalized, h, d.isActive_normalized]
  cases hd : d.isActive with
  | true => rw [kept_cons_of_active (hactive.trans hd), kept_cons_of_active hd, h]
  | false => rw [kept_cons_of_idle (hactive.trans hd), kept_cons_of_idle hd]

theorem isActive_of_mem_kept (h : c ∈ kept cs) : c.isActive = true := by
  obtain ⟨d, hd, rfl⟩ := List.mem_map.1 h
  rw [d.isActive_normalized]
  exact (List.mem_filter.1 hd).2

theorem isActive_of_mem_endChain (hcs : ∀ c ∈ cs, c.isActive = true) (h : c ∈ endChain cs) :
    c.isActive = true := by
  obtain ⟨d, hd, hfield, hvalue⟩ := mem_endChain h
  have hactive := hcs d hd
  rwa [Condition.isActive, ← hfield, ← hvalue] at hactive

theorem endChain_concat : ∀ (cs : List Condition) (c : Condition),
    endChain (cs ++ [c]) = cs ++ [c.joinedBy none]
  | [], _ => rfl
  | [_], _ => rfl
  | d :: e :: cs, c => by
    have ih := endChain_concat (e :: cs) c
    rw [List.cons_append] at ih ⊢
    rw [List.cons_append, endChain, ih]
    rfl

/-- The conjunction of the last condition is normalized away. -/
theorem endChain_kept_joinedBy (hactive : c.isActive = true) (k : Option Conjunction)
    (hb : ∀ d ∈ b, d.isActive = false) (a : List Condition) :
    endChain (kept (a ++ c.joinedBy k :: b)) = endChain (kept (a ++ c :: b)) := by
  rw [kept_append, kept_append, kept_cons_of_active hactive,
    kept_cons_of_active (c := c.joinedBy k) hactive, kept_eq_nil hb, endChain_concat,
    endChain_concat]
  rfl

theorem endChain_endChain (cs : List Condition) : endChain (endChain cs) = endChain cs := by
  rcases List.eq_nil_or_concat cs with rfl | ⟨cs, c, rfl⟩
  · rfl
  · rw [List.concat_eq_append, endChain_concat, endChain_concat]
    rfl

theorem map_normalized_endChain (cs : List Condition) :
    (endChain cs).map Condition.normalized = endChain (cs.map Condition.normalized) := by
  rcases List.eq_nil_or_concat cs with rfl | ⟨cs, c, rfl⟩
  · rfl
  · rw [List.concat_eq_append, endChain_concat, List.map_append, List.map_append,
      List.map_singleton, List.map_singleton, endChain_concat]
    rfl

theorem activeConditions_endChain_kept (cs : List Condition) :
    activeConditions (endChain (kept cs)) = endChain (kept cs) :=
  List.filter_eq_self.2 fun _ => isActive_of_mem_endChain fun _ => isActive_of_mem_kept

theorem kept_endChain_kept (cs : List Condition) :
    kept (endChain (kept cs)) = endChain (kept cs) := by
  have hkept : (kept cs).map Condition.normalized = kept cs := by
    rw [kept, List.map_map]
    exact List.map_congr_left fun c _ => c.normalized_normalized
  rw [kept, activeConditions_endChain_kept, map_normalized_endChain, hkept]

end Conditions

/-! ### Rewordings -/

namespace Query

/-- The named fields of a selection, trimmed. -/
def named (fields : List String) : List String :=
  (fields.filter (!isBlankString ·)).map stripped

/-- One thing in a query is said in another way. -/
inductive Rewording : Query → Query → Prop where
  | idleCondition (q : Query) (a b : List Condition) {c : Condition} (idle : c.isActive = false) :
    Rewording { q with conditions := a ++ b } { q with conditions := a ++ c :: b }
  | lastConjunction (q : Query) (a : List Condition) {b : List Condition} {c : Condition}
    (k : Option Conjunction) (active : c.isActive = true) (last : ∀ d ∈ b, d.isActive = false) :
    Rewording { q with conditions := a ++ c :: b } { q with conditions := a ++ c.joinedBy k :: b }
  | noConjunction (q : Query) (a b : List Condition) {c : Condition}
    (absent : c.conjunction = none) :
    Rewording { q with conditions := a ++ c :: b }
      { q with conditions := a ++ c.joinedBy (some .and) :: b }
  | conditionField (q : Query) (a b : List Condition) (c : Condition) {x y : String}
    (before : isBlankString x = true) (after : isBlankString y = true) :
    Rewording { q with conditions := a ++ c :: b }
      { q with conditions := a ++ { c with field := x ++ c.field ++ y } :: b }
  | field (q : Query) (a b : List String) (f : String) {x y : String}
    (before : isBlankString x = true) (after : isBlankString y = true) :
    Rewording { q with fields := a ++ f :: b } { q with fields := a ++ (x ++ f ++ y) :: b }
  | blankField (q : Query) (a b : List String) {f : String} (blank : isBlankString f = true) :
    Rewording { q with fields := a ++ b } { q with fields := a ++ f :: b }
  | noField (q : Query) (blank : ∀ f ∈ q.fields, isBlankString f = true) :
    Rewording q { q with fields := [defaultField] }
  | object (q : Query) {x y : String}
    (before : isBlankString x = true) (after : isBlankString y = true) :
    Rewording q { q with object := x ++ q.object ++ y }
  | blankObject (q : Query) (blank : isBlankString q.object = true) :
    Rewording q { q with object := fallbackObject }
  | sortField (q : Query) (f : String) (d : Direction) {x y : String}
    (before : isBlankString x = true) (after : isBlankString y = true) :
    Rewording { q with order := some ⟨f, d⟩ } { q with order := some ⟨x ++ f ++ y, d⟩ }
  | blankSortField (q : Query) {f : String} (d : Direction) (blank : isBlankString f = true) :
    Rewording { q with order := some ⟨f, d⟩ } { q with order := none }
  | zeroLimit (q : Query) : Rewording { q with limit := some 0 } { q with limit := none }

/-- Any number of rewordings, in either direction. -/
def Reworded : Query → Query → Prop := Relation.EqvGen Rewording

/-- The query after all that rewordings take off. -/
def normalized (q : Query) : Query :=
  ⟨q.objectName, q.selected, endChain (kept q.conditions), q.sorting, q.rowLimit⟩

/-! ### A rewording leaves what is normalized -/

section Normalized

variable {q q' : Query} {a b : List String} {f : String}

theorem selected_eq (q : Query) : q.selected =
    if (named q.fields).isEmpty then [defaultField] else named q.fields := rfl

theorem named_append (a b : List String) : named (a ++ b) = named a ++ named b := by
  rw [named, List.filter_append, List.map_append]
  rfl

theorem named_cons_of_named (h : isBlankString f = false) (b : List String) :
    named (f :: b) = stripped f :: named b := by
  rw [named, List.filter_cons_of_pos (by rw [h]; rfl)]
  rfl

theorem named_cons_of_blank (h : isBlankString f = true) (b : List String) :
    named (f :: b) = named b := by
  rw [named, List.filter_cons_of_neg (by rw [h]; decide)]
  rfl

theorem named_eq_nil (h : ∀ f ∈ a, isBlankString f = true) : named a = [] := by
  rw [named, List.filter_eq_nil_iff.2 fun f hf => by rw [h f hf]; decide]
  rfl

theorem named_cons_padded {x y : String} (hx : isBlankString x = true) (hy : isBlankString y = true)
    (f : String) (b : List String) : named ((x ++ f ++ y) :: b) = named (f :: b) := by
  have hpadded := isBlankString_padded hx hy f
  cases hf : isBlankString f with
  | true => rw [named_cons_of_blank (hpadded.trans hf), named_cons_of_blank hf]
  | false =>
    rw [named_cons_of_named (hpadded.trans hf), named_cons_of_named hf, stripped_padded hx hy]

theorem named_named (fields : List String) : named (named fields) = named fields := by
  have hnamed : (named fields).filter (!isBlankString ·) = named fields := by
    refine List.filter_eq_self.2 fun f hf => ?_
    obtain ⟨g, hg, rfl⟩ := List.mem_map.1 hf
    rw [isBlankString_stripped]
    exact (List.mem_filter.1 hg).2
  rw [named, hnamed, named, List.map_map]
  exact List.map_congr_left fun f _ => stripped_stripped f

theorem normalized_conditions {cs ds : List Condition}
    (h : endChain (kept cs) = endChain (kept ds)) (q : Query) :
    { q with conditions := cs }.normalized = { q with conditions := ds }.normalized := by
  simp only [normalized, h]
  rfl

theorem normalized_fields (h : named a = named b) (q : Query) :
    { q with fields := a }.normalized = { q with fields := b }.normalized := by
  simp only [normalized, selected_eq, h]
  rfl

/-- What one rewording changes is normalized to the same. -/
theorem Rewording.normalized_eq (h : Rewording q q') : q.normalized = q'.normalized := by
  cases h with
  | idleCondition q a b idle =>
    refine normalized_conditions ?_ q
    rw [kept_append, kept_append, kept_cons_of_idle idle]
  | lastConjunction q a k active last =>
    exact normalized_conditions (endChain_kept_joinedBy active k last a).symm q
  | noConjunction q a b absent =>
    refine normalized_conditions ?_ q
    rw [kept_append, kept_append, kept_cons_congr (Condition.normalized_joinedBy_and absent).symm]
  | conditionField q a b c before after =>
    refine normalized_conditions ?_ q
    rw [kept_append, kept_append, kept_cons_congr (c.normalized_padded before after).symm]
  | field q a b f before after =>
    refine normalized_fields ?_ q
    rw [named_append, named_append, named_cons_padded before after]
  | blankField q a b blank =>
    refine normalized_fields ?_ q
    rw [named_append, named_append, named_cons_of_blank blank]
  | noField q blank =>
    simp only [normalized, selected_eq, named_eq_nil blank]
    rfl
  | object q before after =>
    simp only [normalized, objectName, isBlankString_padded before after,
      stripped_padded before after]
    rfl
  | blankObject q blank =>
    simp only [normalized, objectName, blank]
    rfl
  | sortField q f d before after =>
    simp only [normalized, sorting, isBlankString_padded before after,
      stripped_padded before after]
    rfl
  | blankSortField q d blank =>
    simp only [normalized, sorting, blank]
    rfl
  | zeroLimit q => rfl

theorem Reworded.normalized_eq (h : Reworded q q') : q.normalized = q'.normalized := by
  induction h with
  | rel q q' h => exact h.normalized_eq
  | refl q => rfl
  | symm q q' _ ih => exact ih.symm
  | trans q q' q'' _ _ ih ih' => exact ih.trans ih'

theorem selected_normalized (q : Query) : q.normalized.selected = q.selected := by
  have hnamed : named q.selected = q.selected := by
    rw [selected_eq]
    split
    · decide
    · exact named_named q.fields
  have hne : (named q.selected).isEmpty = false := by
    rw [hnamed, selected_eq]
    split
    · rfl
    · rename_i hne
      exact Bool.eq_false_iff.2 hne
  rw [selected_eq]
  exact (if_neg (Bool.eq_false_iff.1 hne)).trans hnamed

theorem objectName_normalized (q : Query) : q.normalized.objectName = q.objectName := by
  have hname : isBlankString q.objectName = false ∧ stripped q.objectName = q.objectName := by
    rw [objectName]
    split
    · decide
    · rename_i hblank
      exact ⟨by rw [isBlankString_stripped, Bool.eq_false_iff.2 hblank], stripped_stripped _⟩
  rw [objectName]
  exact (if_neg (Bool.eq_false_iff.1 hname.1)).trans hname.2

theorem sorting_normalized (q : Query) : q.normalized.sorting = q.sorting := by
  rw [sorting, normalized]
  cases ho : q.order with
  | none => simp [sorting, ho]
  | some o =>
    by_cases hblank : isBlankString o.field = true
    · simp [sorting, ho, hblank]
    · simp [sorting, ho, hblank, isBlankString_stripped, stripped_stripped]

theorem rowLimit_normalized (q : Query) : q.normalized.rowLimit = q.rowLimit := by
  rw [rowLimit, normalized, rowLimit, Option.filter_filter]
  simp

/-- The normalized query says what the query says. -/
theorem normal_normalized (q : Query) : q.normalized.normal = q.normal := by
  have hactive : activeConditions q.normalized.conditions = endChain (kept q.conditions) :=
    activeConditions_endChain_kept q.conditions
  have hcomparisons : (endChain (kept q.conditions)).map Condition.comparison =
      (activeConditions q.conditions).map Condition.comparison := by
    rw [map_comparison_endChain, kept, List.map_map]
    exact List.map_congr_left fun c _ => c.comparison_normalized
  have hjoins : joinsOf (endChain (kept q.conditions)) =
      joinsOf (activeConditions q.conditions) := by
    rw [joinsOf, dropLast_endChain, kept, ← List.map_dropLast, List.map_map, joinsOf]
    exact List.map_congr_left fun c _ => c.joinsOr_normalized
  rw [normal, hactive, hcomparisons, hjoins, selected_normalized, objectName_normalized,
    sorting_normalized, rowLimit_normalized, normal]

/-- There is nothing left to normalize. -/
theorem normalized_normalized (q : Query) : q.normalized.normalized = q.normalized := by
  have hconditions : endChain (kept q.normalized.conditions) = q.normalized.conditions := by
    rw [normalized, kept_endChain_kept, endChain_endChain]
  rw [normalized, hconditions, selected_normalized, objectName_normalized, sorting_normalized,
    rowLimit_normalized]
  rfl

theorem compile_normalized (q : Query) : q.normalized.compile = q.compile := by
  rw [← compile_normal, normal_normalized, compile_normal]

theorem Reworded.compile_eq (h : Reworded q q') : q.compile = q'.compile := by
  rw [← q.compile_normalized, h.normalized_eq, q'.compile_normalized]

end Normalized

/-! ### Normalizing is rewording -/

section Derived

variable {q q' q'' : Query}

theorem Rewording.reworded (h : Rewording q q') : Reworded q q' := .rel q q' h

namespace Reworded

theorem refl (q : Query) : Reworded q q := Relation.EqvGen.refl q

theorem symm (h : Reworded q q') : Reworded q' q := Relation.EqvGen.symm q q' h

theorem trans (h : Reworded q q') (h' : Reworded q' q'') : Reworded q q'' :=
  Relation.EqvGen.trans q q' q'' h h'

end Reworded

/-- Where blanks can be put around a text, its own can be taken off. -/
theorem reworded_stripped (said : String → Query)
    (padded : ∀ s x y, isBlankString x = true → isBlankString y = true →
      Rewording (said s) (said (x ++ s ++ y))) (s : String) :
    Reworded (said s) (said (stripped s)) := by
  obtain ⟨x, y, hs, hx, hy⟩ := exists_blanks_stripped s
  have h := padded (stripped s) x y hx hy
  rw [← hs] at h
  exact h.reworded.symm

/-- Normalizing one condition is rewording. -/
theorem reworded_condition (q : Query) (a b : List Condition) (c : Condition) :
    Reworded { q with conditions := a ++ c :: b }
      { q with conditions := a ++ c.normalized :: b } := by
  refine (reworded_stripped (fun s => { q with conditions := a ++ { c with field := s } :: b })
    (fun s _ _ => .conditionField q a b { c with field := s }) c.field).trans ?_
  obtain ⟨field, operator, value, conjunction⟩ := c
  cases conjunction with
  | none => exact .refl _
  | some k =>
    cases k with
    | and =>
      have h := Rewording.noConjunction q a b (c := ⟨stripped field, operator, value, none⟩) rfl
      exact h.reworded.symm
    | or => exact .refl _

/-- The conditions are normalized one by one, behind those that are already. -/
theorem reworded_kept (q : Query) : ∀ cs a : List Condition,
    Reworded { q with conditions := a ++ cs } { q with conditions := a ++ kept cs }
  | [], a => .refl _
  | c :: cs, a => by
    cases hc : c.isActive with
    | true =>
      have ih := reworded_kept q cs (a ++ [c.normalized])
      rw [List.append_assoc, List.append_assoc] at ih
      rw [kept_cons_of_active hc]
      exact (reworded_condition q a cs c).trans ih
    | false =>
      rw [kept_cons_of_idle hc]
      exact (Rewording.idleCondition q a cs hc).reworded.symm.trans (reworded_kept q cs a)

theorem reworded_conditions (q : Query) :
    Reworded q { q with conditions := endChain (kept q.conditions) } := by
  refine (reworded_kept q q.conditions []).trans ?_
  rw [List.nil_append]
  rcases List.eq_nil_or_concat (kept q.conditions) with hnil | ⟨cs, c, hlast⟩
  · rw [hnil]
    exact .refl _
  · rw [List.concat_eq_append] at hlast
    have hc : c ∈ kept q.conditions := by
      rw [hlast]
      exact List.mem_concat_self
    rw [hlast, endChain_concat]
    -- nothing stands behind the last one any more, so its conjunction can be taken off
    exact (Rewording.lastConjunction q cs none (isActive_of_mem_kept hc)
      fun d hd => absurd hd List.not_mem_nil).reworded

theorem reworded_named (q : Query) : ∀ fields a : List String,
    Reworded { q with fields := a ++ fields } { q with fields := a ++ named fields }
  | [], a => .refl _
  | f :: fields, a => by
    cases hf : isBlankString f with
    | true =>
      rw [named_cons_of_blank hf]
      exact (Rewording.blankField q a fields hf).reworded.symm.trans (reworded_named q fields a)
    | false =>
      have ih := reworded_named q fields (a ++ [stripped f])
      rw [List.append_assoc, List.append_assoc] at ih
      rw [named_cons_of_named hf]
      exact (reworded_stripped (fun s => { q with fields := a ++ s :: fields })
        (fun s _ _ => .field q a fields s) f).trans ih

theorem reworded_fields (q : Query) : Reworded q { q with fields := q.selected } := by
  refine (reworded_named q q.fields []).trans ?_
  rw [List.nil_append, selected_eq]
  split
  · rename_i hnil
    rw [List.isEmpty_iff.1 hnil]
    have hnone : ∀ f ∈ ([] : List String), isBlankString f = true := List.forall_mem_nil _
    exact (Rewording.noField { q with fields := [] } hnone).reworded
  · exact .refl _

theorem reworded_object (q : Query) : Reworded q { q with object := q.objectName } := by
  rw [objectName]
  split
  · rename_i hblank
    exact (Rewording.blankObject q hblank).reworded
  · exact reworded_stripped (fun s => { q with object := s })
      (fun s _ _ => .object { q with object := s }) q.object

theorem reworded_order (q : Query) : Reworded q { q with order := q.sorting } := by
  obtain ⟨object, fields, conditions, order, limit⟩ := q
  match order with
  | none => exact .refl _
  | some ⟨f, d⟩ =>
    let q : Query := ⟨object, fields, conditions, none, limit⟩
    by_cases hblank : isBlankString f = true
    · simp only [sorting, if_pos hblank]
      exact (Rewording.blankSortField q d hblank).reworded
    · simp only [sorting, if_neg hblank]
      exact reworded_stripped (fun s => { q with order := some ⟨s, d⟩ })
        (fun s _ _ => .sortField q s d) f

theorem reworded_limit (q : Query) : Reworded q { q with limit := q.rowLimit } := by
  obtain ⟨object, fields, conditions, order, limit⟩ := q
  cases limit with
  | none => exact .refl _
  | some n =>
    by_cases hn : n = 0
    · subst hn
      exact (Rewording.zeroLimit ⟨object, fields, conditions, order, none⟩).reworded
    · have hpos : 0 < n := UInt32.pos_iff_ne_zero.2 hn
      simp only [rowLimit, Option.filter_some, decide_eq_true hpos, if_true]
      exact .refl _

/-- A query is normalized by rewordings, part by part. -/
theorem reworded_normalized (q : Query) : Reworded q q.normalized := by
  have h₁ := reworded_object q
  have h₂ := reworded_fields { q with object := q.objectName }
  have h₃ := reworded_conditions { q with object := q.objectName, fields := q.selected }
  have h₄ := reworded_order
    ⟨q.objectName, q.selected, endChain (kept q.conditions), q.order, q.limit⟩
  have h₅ := reworded_limit
    ⟨q.objectName, q.selected, endChain (kept q.conditions), q.sorting, q.limit⟩
  exact h₁.trans (h₂.trans (h₃.trans (h₄.trans h₅)))

/-- Queries are rewordings of each other exactly when they are normalized to the same. -/
theorem reworded_iff : Reworded q q' ↔ q.normalized = q'.normalized := by
  constructor
  · exact Reworded.normalized_eq
  · intro h
    have h' := reworded_normalized q
    rw [h] at h'
    exact h'.trans (reworded_normalized q').symm

end Derived

/-- Rewordings leave the text of a query as it is. To normalize a query is to reword it until there
is nothing left to do: it leaves the text as it is, a second time it does nothing, and queries are
rewordings of each other exactly when they are normalized to the same. -/
theorem compile_reworded :
    (∀ q q' : Query, Reworded q q' → q.compile = q'.compile) ∧
    (∀ q q' : Query, Reworded q q' ↔ q.normalized = q'.normalized) ∧
    ∀ q : Query, Reworded q q.normalized ∧ q.normalized.normalized = q.normalized ∧
      q.normalized.compile = q.compile :=
  ⟨fun _ _ => Reworded.compile_eq, fun _ _ => reworded_iff,
    fun q => ⟨reworded_normalized q, normalized_normalized q, compile_normalized q⟩⟩

/-- A query with conditions that are still to be filled in says what is there already. -/
theorem compile_reworded_unfinished :
    let q : Query := ⟨"\u2003", ["", " Id\n"],
      [⟨"", .eq, "1", some .and⟩, ⟨" A", .eq, "1", some .or⟩, ⟨"X", .gt, "", some .and⟩,
        ⟨"B\u00a0", .gt, "2", some .and⟩, ⟨"C ", .le, "3", some .or⟩, ⟨" ", .eq, "4", some .or⟩],
      some ⟨"\t", .descending⟩, some 0⟩
    let q' : Query := ⟨"Account", ["Id"], [⟨"A", .eq, "1", some .or⟩, ⟨"B", .gt, "2", none⟩,
      ⟨"C", .le, "3", none⟩], none, none⟩
    Reworded q q' ∧ q.compile = q'.compile ∧
      q'.compile = "SELECT Id FROM Account WHERE (A = 1 OR B > 2) AND C <= 3" := by
  intro q q'
  obtain ⟨hcompile, hnormalized, -⟩ := compile_reworded
  have h : Reworded q q' := (hnormalized q q').2 (by decide)
  exact ⟨h, hcompile q q' h, by decide⟩

end Query

end Soql
