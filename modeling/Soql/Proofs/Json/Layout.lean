/-
# The text of a JSON value, part by part

The two printed forms of a value differ in their gaps only. A layout gives these gaps,
and `spell` writes a value in a layout, each item of a list and each member of an
object after its own gap.

Key definitions: `Json.Layout`, `Json.spell`.
Key theorems: `Json.toList_compact`, `Json.toList_pretty`.
-/
import Soql.Json.Printer

namespace Soql.Json

/-- The gap before an item, a member or a closing bracket with `level` lists and objects
around it, and the gap after a colon. -/
structure Layout where
  line : (level : Nat) → List Char
  space : List Char

/-- All on one line, without gaps. -/
def Layout.tight : Layout := ⟨fun _ => [], []⟩

/-- Every item and every member on a line of its own. -/
def Layout.wide : Layout := ⟨fun level => (newLine level).toList, [' ']⟩

mutual

/-- A value with `level` lists and objects around it. -/
def spell (L : Layout) (level : Nat) : Json → List Char
  | .null => ['n', 'u', 'l', 'l']
  | .bool true => ['t', 'r', 'u', 'e']
  | .bool false => ['f', 'a', 'l', 's', 'e']
  | .int n => (toString n).toList
  | .real x => x.text.toList
  | .str s => (escaped s).toList
  | .arr [] => ['[', ']']
  | .arr (v :: vs) => '[' :: (L.line (level + 1) ++ spell L (level + 1) v ++ spellItems L level vs)
  | .obj [] => ['\x7b', '\x7d']
  | .obj (m :: ms) =>
    '\x7b' :: (L.line (level + 1) ++ spellMember L (level + 1) m ++ spellMembers L level ms)

/-- What comes after the first item of a list. -/
def spellItems (L : Layout) (level : Nat) : List Json → List Char
  | [] => L.line level ++ [']']
  | v :: vs => ',' :: (L.line (level + 1) ++ spell L (level + 1) v ++ spellItems L level vs)

def spellMember (L : Layout) (level : Nat) : String × Json → List Char
  | (name, v) => (escaped name).toList ++ ':' :: (L.space ++ spell L level v)

/-- What comes after the first member of an object. -/
def spellMembers (L : Layout) (level : Nat) : List (String × Json) → List Char
  | [] => L.line level ++ ['\x7d']
  | m :: ms => ',' :: (L.line (level + 1) ++ spellMember L (level + 1) m ++ spellMembers L level ms)

end

/-- The items with commas and gaps between them, up to the closing bracket. -/
theorem intercalate_append_items (L : Layout) (level : Nat) : ∀ (v : Json) (vs : List Json),
    List.intercalate (',' :: L.line (level + 1)) ((v :: vs).map (spell L (level + 1))) ++
      (L.line level ++ [']']) = spell L (level + 1) v ++ spellItems L level vs
  | v, [] => by simp [spellItems]
  | v, w :: vs => by
    have ih := intercalate_append_items L level w vs
    rw [List.map_cons] at ih
    rw [List.map_cons, List.map_cons, List.intercalate_cons_cons, List.append_assoc,
      List.append_assoc, ih, spellItems]
    simp only [List.cons_append, List.append_assoc]

theorem intercalate_append_members (L : Layout) (level : Nat) :
    ∀ (m : String × Json) (ms : List (String × Json)),
      List.intercalate (',' :: L.line (level + 1)) ((m :: ms).map (spellMember L (level + 1))) ++
        (L.line level ++ ['\x7d']) = spellMember L (level + 1) m ++ spellMembers L level ms
  | m, [] => by simp [spellMembers]
  | m, m' :: ms => by
    have ih := intercalate_append_members L level m' ms
    rw [List.map_cons] at ih
    rw [List.map_cons, List.map_cons, List.intercalate_cons_cons, List.append_assoc,
      List.append_assoc, ih, spellMembers]
    simp only [List.cons_append, List.append_assoc]

/-! ### The printed forms -/

mutual

theorem toList_compact (level : Nat) : ∀ v : Json, (compact v).toList = spell .tight level v
  | .null => rfl
  | .bool true => rfl
  | .bool false => rfl
  | .int n => by rw [compact, spell]
  | .real x => by rw [compact, spell]
  | .str s => by rw [compact, spell]
  | .arr [] => rfl
  | .arr (v :: vs) => by
    have h := intercalate_append_items .tight level v vs
    rw [← map_compactItems level (v :: vs)] at h
    simp only [compact, String.toList_append, String.toList_intercalate, List.append_assoc]
    exact congrArg ('[' :: ·) h
  | .obj [] => rfl
  | .obj (m :: ms) => by
    have h := intercalate_append_members .tight level m ms
    rw [← map_compactMembers level (m :: ms)] at h
    simp only [compact, String.toList_append, String.toList_intercalate, List.append_assoc]
    exact congrArg ('\x7b' :: ·) h

theorem map_compactItems (level : Nat) : ∀ vs : List Json,
    (compactItems vs).map String.toList = vs.map (spell .tight (level + 1))
  | [] => rfl
  | v :: vs => by
    rw [compactItems, List.map_cons, List.map_cons, toList_compact (level + 1) v,
      map_compactItems level vs]

theorem map_compactMembers (level : Nat) : ∀ ms : List (String × Json),
    (compactMembers ms).map String.toList = ms.map (spellMember .tight (level + 1))
  | [] => rfl
  | (name, v) :: ms => by
    rw [compactMembers, List.map_cons, List.map_cons, map_compactMembers level ms, spellMember,
      String.toList_append, String.toList_append, toList_compact (level + 1) v, List.append_assoc]
    rfl

end

mutual

theorem toList_prettyAt (level : Nat) : ∀ v : Json, (prettyAt level v).toList = spell .wide level v
  | .null => by rw [prettyAt, spell]; rfl
  | .bool true => by rw [prettyAt, spell]; rfl
  | .bool false => by rw [prettyAt, spell]; rfl
  | .int n => by rw [prettyAt, spell]
  | .real x => by rw [prettyAt, spell]
  | .str s => by rw [prettyAt, spell]
  | .arr [] => by rw [prettyAt, spell]; rfl
  | .arr (v :: vs) => by
    have h := intercalate_append_items .wide level v vs
    rw [← map_prettyItems (level + 1) (v :: vs)] at h
    simp only [prettyAt, String.toList_append, String.toList_intercalate, List.append_assoc]
    rw [spell, List.append_assoc, ← h]
    rfl
  | .obj [] => by rw [prettyAt, spell]; rfl
  | .obj (m :: ms) => by
    have h := intercalate_append_members .wide level m ms
    rw [← map_prettyMembers (level + 1) (m :: ms)] at h
    simp only [prettyAt, String.toList_append, String.toList_intercalate, List.append_assoc]
    rw [spell, List.append_assoc, ← h]
    rfl

theorem map_prettyItems (level : Nat) : ∀ vs : List Json,
    (prettyItems level vs).map String.toList = vs.map (spell .wide level)
  | [] => rfl
  | v :: vs => by
    rw [prettyItems, List.map_cons, List.map_cons, toList_prettyAt level v,
      map_prettyItems level vs]

theorem map_prettyMembers (level : Nat) : ∀ ms : List (String × Json),
    (prettyMembers level ms).map String.toList = ms.map (spellMember .wide level)
  | [] => rfl
  | (name, v) :: ms => by
    rw [prettyMembers, List.map_cons, List.map_cons, map_prettyMembers level ms, spellMember,
      String.toList_append, String.toList_append, toList_prettyAt level v, List.append_assoc]
    rfl

end

theorem toList_pretty (v : Json) : (pretty v).toList = spell .wide 0 v := toList_prettyAt 0 v

end Soql.Json
