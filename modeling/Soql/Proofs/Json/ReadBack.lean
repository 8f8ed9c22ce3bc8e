/-
# Printed values are read back

In every layout whose gaps are gaps, what is printed is a text of the value that was
printed. So a value without floating point numbers, whose whole numbers have 64 bits and
which is nested no deeper than the reader goes, is read back from what was printed.

Key definitions: `Json.Layout.Blank`.
Key theorems: `Json.valueText_spell`, `Json.valueText_pretty`, `Json.parse_compact`.
-/
import Soql.Proofs.Json.Float
import Soql.Proofs.Json.Layout
import Soql.Proofs.Json.Reading

namespace Soql.Json

open Text

/-! ### Strings -/

theorem hexValue?_hexDigit : ∀ n < 16, hexValue? (hexDigit n) = some n := by decide

/-- A control character is written by its number. -/
theorem hexText_control {c : Char} (h : c.toNat < 0x20) :
    HexText ['0', '0', hexDigit (c.toNat / 16), hexDigit (c.toNat % 16)] c.toNat := by
  have hn : ((0 * 16 + 0) * 16 + c.toNat / 16) * 16 + c.toNat % 16 = c.toNat := by omega
  have hzero : hexValue? '0' = some 0 := by decide
  have hc := HexText.mk hzero hzero
    (hexValue?_hexDigit (c.toNat / 16) (by omega)) (hexValue?_hexDigit (c.toNat % 16) (by omega))
  rwa [hn] at hc

/-- A character is written in one of its ways. -/
theorem charText_escapeChar (c : Char) : CharText (escapeChar c) c := by
  by_cases h : c ∈ ['"', '\\', '\n', '\r', '\t', '\x08', '\x0c']
  · simp only [List.mem_cons, List.not_mem_nil, or_false] at h
    rcases h with rfl | rfl | rfl | rfl | rfl | rfl | rfl <;> exact .short (by decide)
  · simp only [List.mem_cons, List.not_mem_nil, or_false, not_or] at h
    obtain ⟨h₁, h₂, h₃, h₄, h₅, h₆, h₇⟩ := h
    simp only [escapeChar, h₁, h₂, h₃, h₄, h₅, h₆, h₇, if_false]
    split
    · rename_i hc
      exact .number (hexText_control hc)
    · rename_i hc
      exact .plain h₁ h₂ hc

theorem stringText_flatMap : ∀ s : List Char, StringText (s.flatMap escapeChar) s
  | [] => .nil
  | c :: s => by
    rw [List.flatMap_cons]
    exact .cons (charText_escapeChar c) (stringText_flatMap s)

theorem toList_escaped (s : String) (r : List Char) :
    (escaped s).toList ++ r = '"' :: (s.toList.flatMap escapeChar ++ '"' :: r) := by
  simp [escaped]

/-! ### Values -/

/-- The gaps of the layout are gaps. -/
def Layout.Blank (L : Layout) : Prop := (∀ level, MayGaps (L.line level)) ∧ MayGaps L.space

theorem Layout.blank_tight : Layout.tight.Blank := ⟨fun _ => mayGaps_nil, mayGaps_nil⟩

theorem Layout.blank_wide : Layout.wide.Blank := by
  refine ⟨fun level c hc => ?_, fun c hc => ?_⟩
  · have hc : c ∈ (newLine level).toList := hc
    rw [newLine, String.toList_ofList, List.mem_cons, List.mem_replicate] at hc
    rcases hc with rfl | ⟨-, rfl⟩ <;> rfl
  · rw [List.mem_singleton.1 hc]
    rfl

variable {L : Layout}

mutual

/-- What is printed is a text of the value. -/
theorem valueText_spell (hL : L.Blank) (level : Nat) : ∀ v, ValueText (spell L level v) v
  | .null => .null
  | .bool true => .yes
  | .bool false => .no
  | .int n => by
    rw [spell]
    exact .int n
  | .real x => by
    rw [spell]
    exact .real x (floatText_text x)
  | .str s => by
    rw [spell, ← List.append_nil (escaped s).toList, toList_escaped]
    exact .str (stringText_flatMap s.toList)
  | .arr [] => by
    rw [spell]
    exact .emptyArr mayGaps_nil
  | .arr (v :: vs) => by
    rw [spell, List.append_assoc]
    exact .arr (hL.1 (level + 1)) (valueText_spell hL (level + 1) v) (itemsText_spell hL level vs)
  | .obj [] => by
    rw [spell]
    exact .emptyObj mayGaps_nil
  | .obj (m :: ms) => by
    rw [spell, List.append_assoc]
    exact .obj (hL.1 (level + 1)) (memberText_spell hL (level + 1) m)
      (membersText_spell hL level ms)

theorem itemsText_spell (hL : L.Blank) (level : Nat) : ∀ vs, ItemsText (spellItems L level vs) vs
  | [] => by
    rw [spellItems]
    exact .last (hL.1 level)
  | v :: vs => by
    rw [spellItems, List.append_assoc]
    exact .more (g := []) mayGaps_nil (hL.1 (level + 1)) (valueText_spell hL (level + 1) v)
      (itemsText_spell hL level vs)

theorem memberText_spell (hL : L.Blank) (level : Nat) : ∀ m, MemberText (spellMember L level m) m
  | (name, v) => by
    rw [spellMember, toList_escaped]
    exact .mk (g := []) (stringText_flatMap name.toList) mayGaps_nil hL.2
      (valueText_spell hL level v)

theorem membersText_spell (hL : L.Blank) (level : Nat) :
    ∀ ms, MembersText (spellMembers L level ms) ms
  | [] => by
    rw [spellMembers]
    exact .last (hL.1 level)
  | m :: ms => by
    rw [spellMembers, List.append_assoc]
    exact .more (g := []) mayGaps_nil (hL.1 (level + 1)) (memberText_spell hL (level + 1) m)
      (membersText_spell hL level ms)

end

theorem valueText_compact (v : Json) : ValueText (compact v).toList v := by
  rw [toList_compact 0 v]
  exact valueText_spell Layout.blank_tight 0 v

theorem valueText_pretty (v : Json) : ValueText (pretty v).toList v := by
  rw [toList_pretty v]
  exact valueText_spell Layout.blank_wide 0 v

theorem parse_compact {v : Json} (hf : Fits maxDepth v) (hw : FloatFree v) :
    parse (compact v) = .ok v :=
  parse_document hf hw (.of_valueText (valueText_compact v))

end Soql.Json
