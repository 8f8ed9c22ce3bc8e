/-
# Queries are read from whatever writes them

An object writes a query when its members say what the parts of the query are, in any order
and among strings under other names; a part that is what it is by default may be left out.
The JSON form of a query is one of these objects, and from all of them the query is read.

Key definitions: `Condition.WrittenAs`, `SortOrder.WrittenAs`, `Query.WrittenAs`.
Key theorems: `Query.ofJson_eq_ok`, `Query.writtenAs_toJson`, `Query.WrittenAs.plain`.
-/
import Soql.Proofs.Json.Reading
import Soql.Proofs.Json.Record
import Soql.Query.Wire

namespace Soql

open Json

/-! ### Values that are read -/

theorem Operator.ofJson_toJson (habit : Habit) (op : Operator) :
    Operator.ofJson habit op.toJson = .ok op := by
  cases op <;> rfl

theorem Conjunction.ofJson_toJson (habit : Habit) (k : Conjunction) :
    Conjunction.ofJson habit k.toJson = .ok k := by
  cases k <;> rfl

theorem Direction.ofJson_toJson (habit : Habit) (d : Direction) :
    Direction.ofJson habit d.toJson = .ok d := by
  cases d <;> rfl

theorem asOption_of_ne_null {α : Type} {read : Json → Except Mismatch α} {v : Json} {x : α}
    (hv : v ≠ .null) (hread : read v = .ok x) : asOption read v = .ok (some x) := by
  rw [asOption]
  · rw [hread]
    rfl
  · exact hv

/-- A part that may be missing is read back when it is read back where it is there. -/
theorem asOption_optionToJson {α : Type} {read : Json → Except Mismatch α} {toJson : α → Json}
    (hread : ∀ x, read (toJson x) = .ok x) (hnull : ∀ x, toJson x ≠ .null) (o : Option α) :
    asOption read (optionToJson toJson o) = .ok o := by
  cases o with
  | none => rfl
  | some x => exact asOption_of_ne_null (hnull x) (hread x)

theorem asListFrom_eq_ok {α : Type} {read : Json → Except Mismatch α} {vs : List Json}
    {xs : List α} (h : List.Forall₂ (fun v x => read v = .ok x) vs xs) :
    asListFrom read vs = .ok xs := by
  induction h with
  | nil => rfl
  | cons hv _ ih => simp only [asListFrom, hv, ih, ok_bind, pure_eq_ok]

theorem asList_strings (ss : List String) : asList asString (.arr (ss.map .str)) = .ok ss :=
  asListFrom_eq_ok (List.forall₂_map_left_iff.2 (List.forall₂_same.2 fun _ _ => rfl))

theorem asUInt32_toNat (n : UInt32) : asUInt32 (.int n.toNat) = .ok n := by
  have := n.toNat_lt
  rw [asUInt32, if_pos ⟨Int.natCast_nonneg _, Int.ofNat_lt.2 this⟩, Int.toNat_natCast,
    UInt32.ofNat_toNat]

/-! ### What writes a query -/

/-- The value writes the condition. -/
inductive Condition.WrittenAs (c : Condition) : Json → Prop
  | obj {ms : List (String × Json)} (members : WritesRecord [
      ("field", present (· = .str c.field)),
      ("operator", present (· = c.operator.toJson)),
      ("raw_value", present (· = .str c.value)),
      ("conjunction", presentOr (· = optionToJson Conjunction.toJson c.conjunction)
        (c.conjunction = none))] ms) : c.WrittenAs (.obj ms)

/-- The value writes the order. -/
inductive SortOrder.WrittenAs (o : SortOrder) : Json → Prop
  | obj {ms : List (String × Json)} (members : WritesRecord [
      ("field", present (· = .str o.field)),
      ("direction", presentOr (· = o.direction.toJson) (o.direction = .ascending))] ms) :
      o.WrittenAs (.obj ms)

/-- The value writes a part that may be missing. -/
def optionWrittenAs {α : Type} (written : α → Json → Prop) : Option α → Json → Prop
  | none, v => v = .null
  | some x, v => written x v

/-- The value writes the query. -/
inductive Query.WrittenAs (q : Query) : Json → Prop
  | obj {ms : List (String × Json)} (members : WritesRecord [
      ("object", presentOr (· = .str q.object) (q.object = "")),
      ("fields", presentOr (· = .arr (q.fields.map .str)) (q.fields = [defaultField])),
      ("conditions", presentOr (fun v => ∃ vs, v = .arr vs ∧
        List.Forall₂ (fun v c => Condition.WrittenAs c v) vs q.conditions) (q.conditions = [])),
      ("order_by", presentOr (optionWrittenAs SortOrder.WrittenAs q.order) (q.order = none)),
      ("limit",
        presentOr (· = optionToJson (fun n => .int n.toNat) q.limit) (q.limit = none))] ms) :
      q.WrittenAs (.obj ms)

/-! ### Reading -/

theorem Condition.ofJson_eq_ok {c : Condition} {j : Json} (h : c.WrittenAs j) (habit : Habit) :
    Condition.ofJson habit j = .ok c := by
  obtain ⟨members⟩ := h
  have hfield : FieldReads (present (· = .str c.field)) asString
      (.error (.missingField "field")) c.field := .of_present fun _ hv => by rw [hv, asString]
  have hoperator : FieldReads (present (· = c.operator.toJson)) (Operator.ofJson habit)
      (.error (.missingField "operator")) c.operator :=
    .of_present fun _ hv => by rw [hv, Operator.ofJson_toJson]
  have hvalue : FieldReads (present (· = .str c.value)) asString
      (.error (.missingField "raw_value")) c.value := .of_present fun _ hv => by rw [hv, asString]
  have hconjunction : FieldReads (presentOr (· = optionToJson Conjunction.toJson c.conjunction)
      (c.conjunction = none)) (asOption (Conjunction.ofJson habit)) (.ok none) c.conjunction := by
    refine .of_presentOr (fun v hv => ?_) id
    rw [hv]
    exact asOption_optionToJson (Conjunction.ofJson_toJson habit) (fun _ => nofun) c.conjunction
  have hcheck := members.checkMembers_eq_ok (.cons (hfield.accepts _) (.cons (hoperator.accepts _)
    (.cons (hvalue.accepts _) (.cons (hconjunction.accepts _) .nil))))
  simp only [ofJson, ofMembers, hcheck, ok_bind, pure_eq_ok,
    hfield.member_eq_ok members "field" (by simp),
    hoperator.member_eq_ok members "operator" (by simp),
    hvalue.member_eq_ok members "raw_value" (by simp),
    hconjunction.member_eq_ok members "conjunction" (by simp)]

theorem SortOrder.ofJson_eq_ok {o : SortOrder} {j : Json} (h : o.WrittenAs j) (habit : Habit) :
    SortOrder.ofJson habit j = .ok o := by
  obtain ⟨members⟩ := h
  have hfield : FieldReads (present (· = .str o.field)) asString
      (.error (.missingField "field")) o.field := .of_present fun _ hv => by rw [hv, asString]
  have hdirection : FieldReads (presentOr (· = o.direction.toJson) (o.direction = .ascending))
      (Direction.ofJson habit) (.ok .ascending) o.direction :=
    .of_presentOr (fun _ hv => by rw [hv, Direction.ofJson_toJson]) id
  have hcheck := members.checkMembers_eq_ok (.cons (hfield.accepts _)
    (.cons (hdirection.accepts _) .nil))
  simp only [ofJson, ofMembers, hcheck, ok_bind, pure_eq_ok,
    hfield.member_eq_ok members "field" (by simp),
    hdirection.member_eq_ok members "direction" (by simp)]

/-- A query is read from whatever writes it. -/
theorem Query.ofJson_eq_ok {q : Query} {j : Json} (h : q.WrittenAs j) (habit : Habit) :
    Query.ofJson habit j = .ok q := by
  obtain ⟨members⟩ := h
  have hobject : FieldReads (presentOr (· = .str q.object) (q.object = "")) asString (.ok "")
      q.object := .of_presentOr (fun _ hv => by rw [hv, asString]) id
  have hfields : FieldReads (presentOr (· = .arr (q.fields.map .str)) (q.fields = [defaultField]))
      (asList asString) (.ok [defaultField]) q.fields :=
    .of_presentOr (fun _ hv => by rw [hv, asList_strings]) id
  have hconditions : FieldReads (presentOr (fun v => ∃ vs, v = .arr vs ∧
      List.Forall₂ (fun v c => Condition.WrittenAs c v) vs q.conditions) (q.conditions = []))
      (asList (Condition.ofJson habit)) (.ok []) q.conditions := by
    refine .of_presentOr ?_ id
    rintro _ ⟨vs, rfl, hvs⟩
    exact asListFrom_eq_ok (hvs.imp fun _ _ h => Condition.ofJson_eq_ok h habit)
  have horder : FieldReads (presentOr (optionWrittenAs SortOrder.WrittenAs q.order)
      (q.order = none)) (asOption (SortOrder.ofJson habit)) (.ok none) q.order := by
    refine .of_presentOr (fun v hv => ?_) id
    cases ho : q.order with
    | none =>
      rw [ho, optionWrittenAs] at hv
      rw [hv, asOption]
    | some o =>
      rw [ho, optionWrittenAs] at hv
      exact asOption_of_ne_null (by cases hv; nofun) (SortOrder.ofJson_eq_ok hv habit)
  have hlimit : FieldReads (presentOr (· = optionToJson (fun n => .int n.toNat) q.limit)
      (q.limit = none)) (asOption asUInt32) (.ok none) q.limit := by
    refine .of_presentOr (fun v hv => ?_) id
    rw [hv]
    exact asOption_optionToJson asUInt32_toNat (fun _ => nofun) q.limit
  have hcheck := members.checkMembers_eq_ok (.cons (hobject.accepts _)
    (.cons (hfields.accepts _) (.cons (hconditions.accepts _) (.cons (horder.accepts _)
      (.cons (hlimit.accepts _) .nil)))))
  simp only [ofJson, ofMembers, hcheck, ok_bind, pure_eq_ok,
    hobject.member_eq_ok members "object" (by simp),
    hfields.member_eq_ok members "fields" (by simp),
    hconditions.member_eq_ok members "conditions" (by simp),
    horder.member_eq_ok members "order_by" (by simp),
    hlimit.member_eq_ok members "limit" (by simp)]

/-! ### The JSON form -/

theorem Condition.writtenAs_toJson (c : Condition) : c.WrittenAs c.toJson :=
  .obj ⟨by simp, by simp [present, presentOr, Named.get?], by simp⟩

theorem SortOrder.writtenAs_toJson (o : SortOrder) : o.WrittenAs o.toJson :=
  .obj ⟨by simp, by simp [present, presentOr, Named.get?], by simp⟩

/-- The JSON form of a query writes it. -/
theorem Query.writtenAs_toJson (q : Query) : q.WrittenAs q.toJson := by
  have hconditions : List.Forall₂ (fun v c => Condition.WrittenAs c v)
      (q.conditions.map Condition.toJson) q.conditions :=
    List.forall₂_map_left_iff.2 (List.forall₂_same.2 fun c _ => c.writtenAs_toJson)
  have horder : optionWrittenAs SortOrder.WrittenAs q.order
      (optionToJson SortOrder.toJson q.order) := by
    cases q.order with
    | none => rfl
    | some o => exact o.writtenAs_toJson
  exact .obj ⟨by simp, by simp [presentOr, Named.get?, hconditions, horder], by simp⟩

/-! ### Within what a reader takes -/

theorem plain_optionToJson {α : Type} {d : Nat} {toJson : α → Json}
    (h : ∀ x, Plain d (toJson x)) (o : Option α) : Plain d (optionToJson toJson o) := by
  cases o with
  | none => exact .null
  | some x => exact h x

/-- Numbers of 32 bits have less than 64. -/
theorem plain_uint32 (d : Nat) (n : UInt32) : Plain d (.int n.toNat) := by
  have hn := n.toNat_lt
  have hmin : Int64.minValue.toInt < 0 := by decide
  have hsize : UInt64.size = 18446744073709551616 := rfl
  exact ⟨.int ⟨by omega, by omega⟩, .int _⟩

theorem Condition.WrittenAs.plain {c : Condition} {j : Json} (h : c.WrittenAs j) (d : Nat) :
    Plain (d + 1) j := by
  obtain ⟨members⟩ := h
  refine .obj (members.forall_values ?_ .str)
  simp only [List.forall_mem_cons, present, presentOr, forall_eq, List.not_mem_nil]
  exact ⟨.str _, .str _, .str _, plain_optionToJson (fun k : Conjunction => .str k.word) _, nofun⟩

theorem SortOrder.WrittenAs.plain {o : SortOrder} {j : Json} (h : o.WrittenAs j) (d : Nat) :
    Plain (d + 1) j := by
  obtain ⟨members⟩ := h
  refine .obj (members.forall_values ?_ .str)
  simp only [List.forall_mem_cons, present, presentOr, forall_eq, List.not_mem_nil]
  exact ⟨.str _, .str _, nofun⟩

/-- Whatever writes a query is nested at most three deep. -/
theorem Query.WrittenAs.plain {q : Query} {j : Json} (h : q.WrittenAs j) (d : Nat) :
    Plain (d + 3) j := by
  obtain ⟨members⟩ := h
  refine .obj (members.forall_values ?_ .str)
  simp only [List.forall_mem_cons, presentOr, forall_eq, List.not_mem_nil]
  refine ⟨.str _, .arr fun v hv => ?_, ?_, fun v hv => ?_, plain_optionToJson (plain_uint32 _) _,
    nofun⟩
  · obtain ⟨s, -, rfl⟩ := List.mem_map.1 hv
    exact .str s
  · rintro _ ⟨vs, rfl, hvs⟩
    refine .arr fun v hv => ?_
    obtain ⟨c, -, hc⟩ := exists_of_forall₂ hvs v hv
    exact hc.plain d
  · cases ho : q.order with
    | none =>
      rw [ho, optionWrittenAs] at hv
      exact hv ▸ .null
    | some o =>
      rw [ho, optionWrittenAs] at hv
      exact hv.plain (d + 1)

end Soql
