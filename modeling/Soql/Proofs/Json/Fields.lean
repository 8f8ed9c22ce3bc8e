/-
# Reading the fields of an object, text by text

Fields that are read one after another change a draft step by step. When each field is read
from all of its texts alike, the draft at the end does not depend on how the object was
written.

Key definitions: `Json.Takes`, `Json.TakesAll`.
Key theorems: `Json.readFields_text`.
-/
import Soql.Json.Fields
import Soql.Proofs.Json.Reading

namespace Soql.Json

open Text

variable {g t u : List Char} {v : Json}

/-- A value inside of an object is read from each of its texts. -/
theorem nested_text (hf : Fits (maxDepth - 1) v) (hw : FloatFree v) (hg : MayGaps g)
    (ht : ValueText t v) {r : List Char} (hr : StopsAt goesOn r) :
    nested (g ++ (t ++ r)) = .ok (v, r) :=
  reads_valueText hf hw _ t ht (by simp only [List.length_append]; omega) g r hg hr

/-- The name of a member is read, and what is left is the text of its value. -/
theorem readName_memberText {name : String} (hg : MayGaps g) (ht : MemberText t (name, v))
    (r : List Char) : ∃ g' x, MayGaps g' ∧ ValueText x v ∧
      readName .whole (g ++ (t ++ r)).length (g ++ (t ++ r)) = .ok (name, g' ++ (x ++ r)) := by
  cases ht with
  | @mk n g₁ g₂ x _ _ inside gaps gaps' value =>
    refine ⟨g₂, x, gaps', value, ?_⟩
    have hlen := length_le_stringText inside
    simp only [List.cons_append, List.append_assoc]
    exact readName_text hg inside gaps (by simp only [List.length_append, List.length_cons]; omega)

variable {α : Type} {readField : α → List Char → Except ReadError (α × List Char)}

/-- Whatever text the member has, it takes the draft `d` to `d'`. -/
def Takes (readField : α → List Char → Except ReadError (α × List Char)) (d : α)
    (m : String × Json) (d' : α) : Prop :=
  ∀ {g t r : List Char}, MayGaps g → MemberText t m → StopsAt goesOn r →
    readField d (g ++ (t ++ r)) = .ok (d', r)

/-- The members take the draft from the first to the last one after another. -/
inductive TakesAll (readField : α → List Char → Except ReadError (α × List Char)) :
    α → List (String × Json) → α → Prop
  | nil {d : α} : TakesAll readField d [] d
  | cons {d d' d'' : α} {m : String × Json} {ms : List (String × Json)}
      (first : Takes readField d m d') (rest : TakesAll readField d' ms d'') :
      TakesAll readField d (m :: ms) d''

theorem TakesAll.append {d d' d'' : α} {as bs : List (String × Json)}
    (h : TakesAll readField d as d') (h' : TakesAll readField d' bs d'') :
    TakesAll readField d (as ++ bs) d'' := by
  induction h with
  | nil => exact h'
  | cons first _ ih => exact .cons first (ih h')

theorem readFieldsFrom_text {n : Nat} {d d' : α} {m : String × Json}
    {ms : List (String × Json)} (h : TakesAll readField d (m :: ms) d') (hg : MayGaps g)
    (ht : MemberText t m) (hu : MembersText u ms) (hn : (t ++ u).length ≤ n) (r : List Char) :
    readFieldsFrom readField n d (g ++ (t ++ (u ++ r))) = .ok (d', r) := by
  have hpos := length_lt_memberText ht
  rw [List.length_append] at hn
  obtain ⟨n, rfl⟩ : ∃ k, n = k + 1 := ⟨n - 1, by omega⟩
  induction ms generalizing n g t u m d with
  | nil =>
    cases h with
    | cons first rest =>
      cases rest
      have hread := first hg ht (stopsAt_membersText hu r)
      cases hu with
      | @last g' gaps =>
        have hend : skipGaps (g' ++ ['\x7d'] ++ r) = '\x7d' :: r := skipGaps_last gaps (by rfl)
        rw [readFieldsFrom, hread]
        simp only [ok_bind, hend, pure_eq_ok]
  | cons m' ms ih =>
    cases h with
    | cons first rest =>
      have hread := first hg ht (stopsAt_membersText hu r)
      cases hu with
      | @more g₁ g₂ t' u' _ _ gaps gaps' member others =>
        have hpos' := length_lt_memberText member
        simp only [List.length_append, List.length_cons] at hn
        obtain ⟨n, rfl⟩ : ∃ k, n = k + 1 := ⟨n - 1, by omega⟩
        have hrest := ih rest gaps' member others hpos' n (by omega)
        have hnext : skipGaps (g₁ ++ ',' :: (g₂ ++ (t' ++ u')) ++ r) =
            ',' :: (g₂ ++ (t' ++ (u' ++ r))) := skipGaps_more gaps
        rw [readFieldsFrom, hread]
        simp only [ok_bind, hnext, hrest]

/-- An object is read field by field from each of its texts. -/
theorem readFields_text {d d' : α} {ms : List (String × Json)} (h : TakesAll readField d ms d')
    (ht : ValueText t (.obj ms)) :
    ∃ s, t = '\x7b' :: s ∧ ∀ r, readFields readField d (s ++ r) = .ok (d', r) := by
  cases ht with
  | @emptyObj g gaps =>
    cases h
    refine ⟨_, rfl, fun r => ?_⟩
    have hend : skipGaps (g ++ ['\x7d'] ++ r) = '\x7d' :: r := skipGaps_last gaps (by rfl)
    rw [readFields, hend]
    rfl
  | @obj g t' u' m ms gaps first rest =>
    obtain ⟨s, rfl⟩ : ∃ s, t' = '"' :: s := by cases first; exact ⟨_, rfl⟩
    refine ⟨_, rfl, fun r => ?_⟩
    have hread := readFieldsFrom_text (n := ('"' :: (s ++ (u' ++ r))).length) h mayGaps_nil first
      rest (by simp only [List.length_append, List.length_cons]; omega) r
    have hstart : skipGaps (g ++ ('"' :: s ++ u') ++ r) = '"' :: (s ++ (u' ++ r)) := by
      rw [List.append_assoc, skipGaps_gaps gaps]
      simp only [List.cons_append, List.append_assoc]
      exact skipGaps_cons (by rfl)
    rw [readFields, hstart]
    exact hread

end Soql.Json
