/-
# What a backend holds

A write changes what a backend holds as a whole, or it fails and changes neither that nor
the text of the state file. A backend that was opened from a state file can be opened
again after every write, and is then the same.

Key definitions: `Backend.held`, `Backend.Readable`, `Backend.Durable`, `Backend.Opened`.
Key theorems: `Backend.get_eq_ok`, `Disk.save_cases`, `Backend.update_cases`,
`Backend.reopen_of_durable`.
-/
import Soql.Proofs.Store.StateFile
import Soql.Store.Backend

namespace Soql

open StateFile

/-! ### Saving -/

/-- A document that was saved is in its place; one that was not has changed nothing there. -/
theorem Disk.save_cases (refuses : Nat → Option SystemError) (entries : Named Json) (d : Disk) :
    (∃ d', Disk.save refuses entries d = (.ok (), d') ∧ d'.state = some (write entries)) ∨
    ∃ e d', Disk.save refuses entries d = (.error e, d') ∧ d'.state = d.state := by
  simp only [Disk.save, Disk.saveSteps, Disk.run]
  split
  · exact .inr ⟨_, _, rfl, rfl⟩
  · split
    · exact .inr ⟨_, _, rfl, rfl⟩
    · split
      · exact .inr ⟨_, _, rfl, rfl⟩
      · split
        · exact .inr ⟨_, _, rfl, rfl⟩
        · exact .inl ⟨_, rfl, rfl⟩

namespace Backend

/-- The entries that a backend holds. -/
def held : Backend → Named Json
  | .memory m => m.entries
  | .file f => f.entries

/-- Reading does not fail. -/
def Readable : Backend → Prop
  | .memory m => m.readsFail = false
  | .file _ => True

theorem get_eq_ok {b : Backend} {key : String} {v : Option Json} :
    b.get key = .ok v ↔ b.Readable ∧ b.held.get? key = v := by
  cases b with
  | memory m => cases h : m.readsFail <;> simp [get, Readable, held, h]
  | file f => simp [get, Readable, held]

/-- The state file, if there is one, is read to the entries that are held, and they can be
written to it again. -/
structure Kept (f : FileEntries) : Prop where
  rewritable : Rewritable f.entries
  onDisk : (f.disk.state = none ∧ f.entries = []) ∨
    ∃ text, f.disk.state = some text ∧ StateFile.read text = .ok f.entries

/-- What is held can be had again. -/
def Durable : Backend → Prop
  | .memory _ => True
  | .file f => Kept f

/-- The backends that there are to begin with: any in memory, and those that were opened from a
state file without floating point numbers. -/
inductive Opened : Backend → Prop where
  | memory (m) : Opened (.memory m)
  | file {path disk refuses b} (h : openFile path disk refuses = .ok b)
    (hfree : ∀ e ∈ b.held, Json.FloatFree e.2) : Opened b

theorem durable_of_opened {b : Backend} (h : Opened b) : b.Durable := by
  cases h with
  | memory m => trivial
  | @file path disk refuses _ h hfree =>
    unfold openFile at h
    split at h
    · rename_i hstate
      obtain rfl := Except.ok.inj h
      exact ⟨⟨storable_nil, hfree⟩, .inl ⟨hstate, rfl⟩⟩
    · rename_i text hstate
      split at h
      · rename_i entries hread
        obtain rfl := Except.ok.inj h
        exact ⟨⟨storable_of_read hread, hfree⟩, .inr ⟨text, hstate, hread⟩⟩
      · cases h

/-- Opened again, a backend is what it was. -/
theorem reopen_of_durable {b : Backend} (h : b.Durable) : b.reopen = .ok b := by
  cases b with
  | memory m => rfl
  | file f =>
    obtain ⟨path, entries, disk, refuses⟩ := f
    rcases h.onDisk with ⟨hstate, hentries⟩ | ⟨text, hstate, hread⟩
    · simp only at hstate hentries
      simp only [reopen, openFile, hstate, hentries]
    · simp only at hstate hread
      simp only [reopen, openFile, hstate, hread]

/-- A write comes through as a whole or not at all. -/
theorem update_cases (change : Named Json → Named Json) (b : Backend) :
    (∃ b', b.update change = (.ok (), b') ∧ b'.held = change b.held ∧
      (b'.Readable ↔ b.Readable) ∧
      ((Rewritable b.held → Rewritable (change b.held)) → b.Durable → b'.Durable)) ∨
    ∃ e b', b.update change = (.error e, b') ∧ b'.held = b.held ∧ b'.document? = b.document? ∧
      (b'.Readable ↔ b.Readable) ∧ (b.Durable → b'.Durable) := by
  cases b with
  | memory m =>
    cases h : m.writesFail with
    | false =>
      exact .inl ⟨.memory { m with entries := change m.entries }, by simp [update, h], rfl,
        Iff.rfl, fun _ _ => trivial⟩
    | true =>
      exact .inr ⟨.trouble "disk full", .memory m, by simp [update, h], rfl, rfl, Iff.rfl, id⟩
  | file f =>
    rcases Disk.save_cases f.refuses (change f.entries) f.disk with
      ⟨disk, hsave, hstate⟩ | ⟨e, disk, hsave, hstate⟩
    · refine .inl ⟨.file { f with entries := change f.entries, disk }, ?_, rfl, Iff.rfl, ?_⟩
      · simp only [update, hsave]
      · intro hkeep hf
        have hnew : Rewritable (change f.entries) := hkeep hf.rewritable
        exact ⟨hnew, .inr ⟨_, hstate, read_write hnew⟩⟩
    · refine .inr ⟨.system e, .file { f with disk }, ?_, rfl, ?_, Iff.rfl, ?_⟩
      · simp only [update, hsave]
      · simp only [document?, hstate]
      · intro hf
        exact ⟨hf.rewritable, by rw [hstate]; exact hf.onDisk⟩

end Backend

end Soql
