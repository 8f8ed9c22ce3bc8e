/-
# The state file keeps its entries

Whatever a state file is read to are entries in the order of their names, tidy inside and
nested no deeper than the reader goes. Written again, such entries without floating point
numbers are read back.

Key definitions: `StateFile.Storable`, `StateFile.Rewritable`.
Key theorems: `StateFile.read_write`, `StateFile.storable_of_read`.
-/
import Soql.Proofs.Json.Fields
import Soql.Proofs.Json.ReadBack
import Soql.Proofs.Json.Tidy
import Soql.Store.StateFile

namespace Soql.StateFile

open Json Text

/-- Entries that a state file can be read to. -/
structure Storable (entries : Named Json) : Prop where
  tidy : TidyEntries entries
  fits : ∀ e ∈ entries, Fits (maxDepth - 2) e.2

theorem storable_nil : Storable [] := ⟨tidyEntries_nil, fun _ h => absurd h List.not_mem_nil⟩

/-- A value that can be put among entries of a state file and read back. -/
structure RewritableValue (v : Json) : Prop where
  tidy : Json.tidy v = v
  fits : Fits (maxDepth - 2) v
  floatFree : FloatFree v

/-- Entries that a state file can be read to when they have been written to it. -/
structure Rewritable (entries : Named Json) : Prop extends Storable entries where
  floatFree : ∀ e ∈ entries, FloatFree e.2

theorem rewritable_iff {entries : Named Json} :
    Rewritable entries ↔ entries.Sorted ∧ ∀ e ∈ entries, RewritableValue e.2 := by
  constructor
  · intro h
    exact ⟨h.tidy.sorted, fun e he => ⟨h.tidy.values e he, h.fits e he, h.floatFree e he⟩⟩
  · intro ⟨hs, hv⟩
    exact ⟨⟨⟨hs, fun e he => (hv e he).tidy⟩, fun e he => (hv e he).fits⟩,
      fun e he => (hv e he).floatFree⟩

theorem Rewritable.putAll {l entries : Named Json} (hl : Rewritable l)
    (h : ∀ e ∈ entries, RewritableValue e.2) : Rewritable (Named.putAll entries l) := by
  obtain ⟨hs, hv⟩ := rewritable_iff.1 hl
  refine rewritable_iff.2 ⟨Named.sorted_putAll hs entries, fun e he => ?_⟩
  rcases Named.mem_putAll he with he | he
  · exact h e he
  · exact hv e he

theorem Rewritable.eraseAll {l : Named Json} (hl : Rewritable l) (names : List String) :
    Rewritable (Named.eraseAll names l) := by
  obtain ⟨hs, hv⟩ := rewritable_iff.1 hl
  exact rewritable_iff.2 ⟨Named.sorted_eraseAll hs names,
    fun e he => hv e (Named.mem_of_mem_eraseAll he)⟩

/-! ### Writing and reading back -/

theorem takes_version (entries : Option (Named Json)) :
    Takes readField ⟨false, entries⟩ ("version", .int version) ⟨true, entries⟩ := by
  intro g t r hg ht hr
  obtain ⟨g', x, hg', hx, hname⟩ := readName_memberText hg ht r
  have hread : readVersion (g' ++ (x ++ r)) = .ok r := by
    rw [readVersion, nested_text (.int (by decide)) (.int _) hg' hx hr]
    rfl
  rw [readField, hname]
  simp only [orFault, mapError_ok, ok_bind, hread]
  rfl

theorem takes_entries {entries : Named Json} (h : Rewritable entries) (b : Bool) :
    Takes readField ⟨b, none⟩ ("entries", .obj entries) ⟨b, some entries⟩ := by
  intro g t r hg ht hr
  obtain ⟨g', x, hg', hx, hname⟩ := readName_memberText hg ht r
  have hread : readEntries (g' ++ (x ++ r)) = .ok (entries, r) := by
    rw [readEntries, nested_text (.obj h.fits) (.obj h.floatFree) hg' hx hr]
    simp only [orFault, mapError_ok, ok_bind, tidyMembers_eq h.tidy, pure_eq_ok]
  rw [readField, hname]
  simp only [orFault, mapError_ok, ok_bind, hread]
  rfl

/-- Entries are read back from the document that they were written to. -/
theorem read_write {entries : Named Json} (h : Rewritable entries) :
    read (write entries) = .ok entries := by
  have hfields : TakesAll readField ⟨false, none⟩
      [("version", .int version), ("entries", .obj entries)] ⟨true, some entries⟩ :=
    .cons (takes_version none) (.cons (takes_entries h true) .nil)
  obtain ⟨s, hs, hread⟩ := readFields_text hfields (valueText_pretty _)
  have hread := hread []
  rw [List.append_nil] at hread
  rw [read, write, hs, skipGaps_cons (by rfl)]
  simp only [readObject, hread, ok_bind, pure_eq_ok]
  rfl

/-! ### What is read -/

theorem storable_of_readEntries {s r : List Char} {entries : Named Json}
    (h : readEntries s = .ok (entries, r)) : Storable entries := by
  obtain ⟨⟨v, s'⟩, hv, h⟩ := bind_eq_ok.1 h
  have hfits := fits_of_readNested (mapError_eq_ok.1 hv)
  simp only at h
  split at h
  · obtain ⟨rfl, -⟩ := Prod.mk.inj (Except.ok.inj h)
    refine ⟨tidyEntries_tidyMembers tidyEntries_nil _, fun e he => ?_⟩
    cases hfits with
    | obj hms =>
      rcases mem_tidyMembers he with he | ⟨m, hm, he⟩
      · exact absurd he List.not_mem_nil
      · rw [he]
        exact fits_tidy (hms m hm)
  · cases h

/-- A draft holds entries that can be stored, if any. -/
def Draft.Sound (d : Draft) : Prop := ∀ entries, d.entries = some entries → Storable entries

theorem sound_of_readField {d d' : Draft} {s r : List Char} (hd : d.Sound)
    (h : readField d s = .ok (d', r)) : d'.Sound := by
  obtain ⟨⟨name, s₁⟩, -, h⟩ := bind_eq_ok.1 h
  simp only at h
  split at h
  · split at h
    · cases h
    · obtain ⟨s₂, -, h⟩ := bind_eq_ok.1 h
      obtain ⟨rfl, -⟩ := Prod.mk.inj (Except.ok.inj h)
      exact hd
  · split at h
    · split at h
      · cases h
      · obtain ⟨⟨es, s₂⟩, hes, h⟩ := bind_eq_ok.1 h
        obtain ⟨rfl, -⟩ := Prod.mk.inj (Except.ok.inj h)
        exact fun entries he => Option.some.inj he ▸ storable_of_readEntries hes
    · obtain ⟨s₂, -, h⟩ := bind_eq_ok.1 h
      obtain ⟨rfl, -⟩ := Prod.mk.inj (Except.ok.inj h)
      exact hd

theorem sound_of_readFieldsFrom : ∀ {n : Nat} {d d' : Draft} {s r : List Char}, d.Sound →
    readFieldsFrom readField n d s = .ok (d', r) → d'.Sound
  | 0, _, _, _, _, _, h => by cases h
  | n + 1, d, d', s, r, hd, h => by
    rw [readFieldsFrom] at h
    obtain ⟨⟨d₁, s₁⟩, hfield, h⟩ := bind_eq_ok.1 h
    have hd₁ := sound_of_readField hd hfield
    simp only at h
    split at h
    · exact sound_of_readFieldsFrom hd₁ h
    · obtain ⟨rfl, -⟩ := Prod.mk.inj (Except.ok.inj h)
      exact hd₁
    · cases h

theorem storable_of_readObject {s r : List Char} {entries : Named Json}
    (h : readObject s = .ok (entries, r)) : Storable entries := by
  obtain ⟨⟨d, s₁⟩, hd, h⟩ := bind_eq_ok.1 h
  have hsound : d.Sound := by
    have hstart : Draft.Sound ⟨false, none⟩ := fun _ h => by cases h
    unfold readFields at hd
    split at hd
    · obtain ⟨rfl, -⟩ := Prod.mk.inj (Except.ok.inj hd)
      exact hstart
    · exact sound_of_readFieldsFrom hstart hd
  simp only at h
  split at h
  · cases h
  · obtain ⟨rfl, -⟩ := Prod.mk.inj (Except.ok.inj h)
    cases he : d.entries with
    | none => exact storable_nil
    | some entries => exact hsound entries he

theorem storable_of_readList {s r : List Char} {entries : Named Json}
    (h : readList s = .ok (entries, r)) : Storable entries := by
  unfold readList at h
  split at h
  · cases h
  · obtain ⟨s₁, -, h⟩ := bind_eq_ok.1 h
    simp only at h
    split at h
    · obtain ⟨rfl, -⟩ := Prod.mk.inj (Except.ok.inj h)
      exact storable_nil
    · obtain ⟨⟨es, s₂⟩, hes, h⟩ := bind_eq_ok.1 h
      simp only at h
      split at h
      · obtain ⟨rfl, -⟩ := Prod.mk.inj (Except.ok.inj h)
        exact storable_of_readEntries hes
      · cases h
    · cases h

/-- Whatever a state file is read to can be stored. -/
theorem storable_of_read {text : String} {entries : Named Json} (h : read text = .ok entries) :
    Storable entries := by
  unfold read at h
  split at h
  · obtain ⟨⟨es, s⟩, hes, h⟩ := bind_eq_ok.1 h
    obtain ⟨_, -, h⟩ := bind_eq_ok.1 h
    obtain rfl := Except.ok.inj h
    exact storable_of_readObject hes
  · obtain ⟨⟨es, s⟩, hes, h⟩ := bind_eq_ok.1 h
    obtain ⟨_, -, h⟩ := bind_eq_ok.1 h
    obtain rfl := Except.ok.inj h
    exact storable_of_readList hes
  · obtain ⟨_, -, h⟩ := bind_eq_ok.1 h
    cases h

end Soql.StateFile
