/-
# Writes that fail or are cut short

A write saves the changed entries to the state file step by step, and the system may refuse
any of the steps, or the process may stop between two of them. The state file changes at the
last step only, where the file beside it takes its place, so at every moment it holds a
whole document, the one before the write or the one after it (`Disk.run_take_cases`).

What happens to a state file is a run of steps (`FileStep`). A run keeps that the state file
can be opened again and is then read to the entries that are held, and the entries are at any
time those that entries in memory would be after the writes that came through.

Key definitions: `EntryWrite`, `FileEntries.diskAt`, `FileStep`, `FileStep.run`,
`EntryWrite.replay`.
Key theorems: `Disk.run_take_cases`, `FileStep.apply_spec`, `FileStep.run_spec`,
`FileStep.run_atomic`.
-/
import Soql.Proofs.Store.Coherence

namespace Soql

open StateFile

/-! ### Saving that is cut short -/

namespace Disk

/-- All steps but the last one leave the state file alone. -/
theorem SaveStep.apply_state {step : SaveStep} (h : step ≠ .renameTemp) (d : Disk) :
    (step.apply d).state = d.state := by
  cases step with
  | renameTemp => exact absurd rfl h
  | _ => rfl

theorem run_state (refuses : Nat → Option SystemError) {steps : List SaveStep}
    (h : ∀ step ∈ steps, step ≠ .renameTemp) (i : Nat) (d : Disk) :
    (run refuses i steps d).2.state = d.state := by
  induction steps generalizing i d with
  | nil => rfl
  | cons step steps ih =>
    obtain ⟨hstep, hsteps⟩ := List.forall_mem_cons.1 h
    rw [run]
    split
    · rfl
    · rw [ih hsteps, SaveStep.apply_state hstep]

/-- Saving that is cut short has changed nothing at the place of the state file, unless all steps
were done and none was refused. -/
theorem run_take_cases (refuses : Nat → Option SystemError) (entries : Named Json) (d : Disk)
    (k : Nat) :
    (saveSteps entries).length ≤ k ∧ (save refuses entries d).1 = .ok () ∧
        (run refuses 0 ((saveSteps entries).take k) d).2.state = some (write entries) ∨
      ((saveSteps entries).length ≤ k → ∃ e, (save refuses entries d).1 = .error e) ∧
        (run refuses 0 ((saveSteps entries).take k) d).2.state = d.state := by
  by_cases hk : (saveSteps entries).length ≤ k
  · rw [List.take_of_length_le hk]
    rcases save_cases refuses entries d with ⟨d', hd', hstate⟩ | ⟨e, d', hd', hstate⟩
    · exact .inl ⟨hk, by rw [hd'], by rw [← hstate, ← save, hd']⟩
    · exact .inr ⟨fun _ => ⟨e, by rw [hd']⟩, by rw [← save, hd', hstate]⟩
  · refine .inr ⟨fun h => absurd h hk, ?_⟩
    -- a proper part of the steps ends before the renaming
    have hsplit : saveSteps entries =
        [.makeDirectory, .createTemp, .writeTemp (write entries)] ++ [.renameTemp] := rfl
    have hle : k ≤ [SaveStep.makeDirectory, .createTemp, .writeTemp (write entries)].length := by
      exact Nat.lt_succ_iff.1 (Nat.not_le.1 hk)
    rw [hsplit, List.take_append_of_le_length hle]
    refine run_state refuses (fun step hstep => ?_) 0 d
    have hmem := List.mem_of_mem_take hstep
    simp only [List.mem_cons, List.not_mem_nil, or_false] at hmem
    rcases hmem with rfl | rfl | rfl <;> exact SaveStep.noConfusion

end Disk

theorem Backend.openFile_eq_ok {path : String} {disk : Disk}
    {refuses : Nat → Option SystemError} {b : Backend} (h : openFile path disk refuses = .ok b) :
    ∃ entries, b = .file ⟨path, entries, disk, refuses⟩ := by
  unfold openFile at h
  split at h
  · exact ⟨[], (Except.ok.inj h).symm⟩
  · split at h
    · rename_i entries _
      exact ⟨entries, (Except.ok.inj h).symm⟩
    · cases h

/-! ### Writes -/

/-- A write of entries. -/
inductive EntryWrite where
  | set (entries : Named Json)
  | remove (keys : List String)

namespace EntryWrite

/-- The values that are written can be read back from a state file. -/
def Admissible : EntryWrite → Prop
  | .set entries => ∀ e ∈ entries, RewritableValue e.2
  | .remove _ => True

/-- What a write does to the entries when it comes through. -/
def change : EntryWrite → Named Json → Named Json
  | .set entries => Named.putAll entries
  | .remove keys => Named.eraseAll keys

def apply : EntryWrite → Backend → Except StoreError Unit × Backend
  | .set entries => Backend.setMany entries
  | .remove keys => Backend.removeMany keys

/-- The backend after some writes, whatever came of them. -/
def replay (ws : List EntryWrite) (b : Backend) : Backend :=
  ws.foldl (fun b w => (w.apply b).2) b

theorem apply_eq (w : EntryWrite) (b : Backend) : w.apply b = b.update w.change := by
  cases w <;> rfl

theorem rewritable_change {w : EntryWrite} (hw : w.Admissible) {l : Named Json}
    (hl : Rewritable l) : Rewritable (w.change l) := by
  cases w with
  | set entries => exact hl.putAll hw
  | remove keys => exact hl.eraseAll keys

/-- The entries after some writes that all came through. -/
def changeAll (ws : List EntryWrite) (l : Named Json) : Named Json :=
  ws.foldl (fun l w => w.change l) l

theorem changeAll_append (ws ws' : List EntryWrite) (l : Named Json) :
    changeAll (ws ++ ws') l = changeAll ws' (changeAll ws l) := List.foldl_append

/-- Writes to memory that does not fail all come through. -/
theorem replay_ofEntries (ws : List EntryWrite) (l : Named Json) :
    replay ws (Backend.ofEntries l) = Backend.ofEntries (changeAll ws l) := by
  induction ws generalizing l with
  | nil => rfl
  | cons w ws ih =>
    have hw : (w.apply (Backend.ofEntries l)).2 = Backend.ofEntries (w.change l) := by
      rw [apply_eq]
      rfl
    show replay ws (w.apply (Backend.ofEntries l)).2 = _
    rw [hw, ih]
    rfl

end EntryWrite

/-- The disk when the first `k` steps of a write are done, as far as the system does them. -/
def FileEntries.diskAt (f : FileEntries) (w : EntryWrite) (k : Nat) : Disk :=
  (Disk.run f.refuses 0 ((Disk.saveSteps (w.change f.entries)).take k) f.disk).2

/-- The writes that came through, of one that came out as `r`. -/
def EntryWrite.through (w : EntryWrite) (r : Except StoreError Unit) : List EntryWrite :=
  match r with
  | .ok () => [w]
  | .error _ => []

/-! ### Runs -/

/-- What happens to a state file and to those who keep entries in it. -/
inductive FileStep where
  | write (w : EntryWrite)
  | look (key : String)
  /-- The entries are read again from the state file. -/
  | reopen
  /-- From now on the system refuses other steps of saving. -/
  | refuse (refuses : Nat → Option SystemError)
  /-- Something is left beside the state file, as by a write that was done in part. -/
  | litter (beside : Option String)
  /-- The process stops when `k` steps of a write are done, and another one is started. -/
  | stop (w : EntryWrite) (k : Nat)

namespace FileStep

def Admissible : FileStep → Prop
  | .write w => w.Admissible
  | .stop w _ => w.Admissible
  | _ => True

/-- What is left when the process stops after `k` steps of a write: nothing of what it had in
memory counts any more. -/
def stopped (w : EntryWrite) (k : Nat) : Backend → List EntryWrite × Backend
  | .memory m => ([], .memory m)
  | .file f =>
    (if (Disk.saveSteps (w.change f.entries)).length ≤ k then w.through (w.apply (.file f)).1
      else [],
      .file { f with entries := [], disk := f.diskAt w k })

/-- The writes that came through in a step, and the backend after it; an error if the state file
cannot be opened. -/
def apply : FileStep → Backend → Except StoreError (List EntryWrite × Backend)
  | .write w, b => .ok (w.through (w.apply b).1, (w.apply b).2)
  | .look _, b => .ok ([], b)
  | .reopen, b => do return ([], ← b.reopen)
  | .refuse refuses, b => .ok ([], b.refusing refuses)
  | .litter _, .memory m => .ok ([], .memory m)
  | .litter beside, .file f => .ok ([], .file { f with disk.temp := beside })
  | .stop w k, b => do return ((stopped w k b).1, ← (stopped w k b).2.reopen)

/-- The same for steps one after another. -/
def run : List FileStep → Backend → Except StoreError (List EntryWrite × Backend)
  | [], b => .ok ([], b)
  | step :: steps, b => do
    let (ws, b) ← step.apply b
    let (ws', b) ← run steps b
    return (ws ++ ws', b)

/-- What a step keeps: the state file can be opened again, the entries are those of the writes
that came through, and a state file that is not there was never written. -/
structure Keeps (f : FileEntries) (ws : List EntryWrite) (f' : FileEntries) : Prop where
  kept : Backend.Kept f'
  entries : f'.entries = EntryWrite.changeAll ws f.entries
  absent : f'.disk.state = none → ws = [] ∧ f.disk.state = none

theorem Keeps.trans {f f' f'' : FileEntries} {ws ws' : List EntryWrite} (h : Keeps f ws f')
    (h' : Keeps f' ws' f'') : Keeps f (ws ++ ws') f'' where
  kept := h'.kept
  entries := by rw [h'.entries, h.entries, EntryWrite.changeAll_append]
  absent hnone := by
    obtain ⟨rfl, hnone'⟩ := h'.absent hnone
    rw [List.append_nil]
    exact h.absent hnone'

/-- A write comes through in memory and on disk, or it fails and changes neither. -/
theorem keeps_write {f : FileEntries} (h : Backend.Kept f) {w : EntryWrite} (hw : w.Admissible) :
    ∃ f', (w.apply (.file f)).2 = .file f' ∧ Keeps f (w.through (w.apply (.file f)).1) f' := by
  have hnew := EntryWrite.rewritable_change hw h.rewritable
  rw [EntryWrite.apply_eq, Backend.update]
  rcases Disk.save_cases f.refuses (w.change f.entries) f.disk with
    ⟨disk, hsave, hstate⟩ | ⟨e, disk, hsave, hstate⟩
  · rw [hsave]
    refine ⟨_, rfl, ⟨hnew, .inr ⟨_, hstate, read_write hnew⟩⟩, rfl, fun hnone => ?_⟩
    cases hstate.symm.trans hnone
  · rw [hsave]
    refine ⟨_, rfl, ⟨h.rewritable, ?_⟩, rfl, fun hnone => ⟨rfl, ?_⟩⟩
    · rw [hstate]
      exact h.onDisk
    · exact hstate.symm.trans hnone

theorem apply_file_fst (f : FileEntries) (w : EntryWrite) :
    (w.apply (.file f)).1 =
      (Disk.save f.refuses (w.change f.entries) f.disk).1.mapError .system := by
  rw [EntryWrite.apply_eq, Backend.update]
  rcases Disk.save f.refuses (w.change f.entries) f.disk with ⟨_ | _, disk⟩ <;> rfl

/-- What is at the place of the state file while a write goes on. -/
theorem diskAt_cases (f : FileEntries) (w : EntryWrite) (k : Nat) :
    (Disk.saveSteps (w.change f.entries)).length ≤ k ∧ (w.apply (.file f)).1 = .ok () ∧
        (f.diskAt w k).state = some (StateFile.write (w.change f.entries)) ∨
      ((Disk.saveSteps (w.change f.entries)).length ≤ k → ∃ e, (w.apply (.file f)).1 = .error e) ∧
        (f.diskAt w k).state = f.disk.state := by
  rw [apply_file_fst]
  rcases Disk.run_take_cases f.refuses (w.change f.entries) f.disk k with
    ⟨hk, hok, hstate⟩ | ⟨herror, hstate⟩
  · exact .inl ⟨hk, by rw [hok, mapError_ok], hstate⟩
  · refine .inr ⟨fun hk => ?_, hstate⟩
    obtain ⟨e, he⟩ := herror hk
    exact ⟨.system e, by rw [he]; rfl⟩

/-- A process that stops leaves a state file that can be opened, with the entries from before
the write or from after it. -/
theorem keeps_stop {f : FileEntries} (h : Backend.Kept f) {w : EntryWrite} (hw : w.Admissible)
    (k : Nat) :
    ∃ f', (stopped w k (.file f)).2.reopen = .ok (.file f') ∧
      Keeps f (stopped w k (.file f)).1 f' := by
  have hnew := EntryWrite.rewritable_change hw h.rewritable
  simp only [stopped, Backend.reopen, Backend.openFile]
  rcases diskAt_cases f w k with ⟨hk, hok, hstate⟩ | ⟨hnot, hstate⟩
  · rw [hstate, if_pos hk, hok]
    simp only [read_write hnew]
    refine ⟨_, rfl, ⟨hnew, .inr ⟨_, hstate, read_write hnew⟩⟩, rfl, fun hnone => ?_⟩
    cases hstate.symm.trans hnone
  · have hthrough : (if (Disk.saveSteps (w.change f.entries)).length ≤ k then
        w.through (w.apply (.file f)).1 else []) = [] := by
      split
      · rename_i hk
        obtain ⟨e, he⟩ := hnot hk
        rw [he]
        rfl
      · rfl
    rw [hthrough, hstate]
    rcases h.onDisk with ⟨hnone, hentries⟩ | ⟨text, htext, hread⟩
    · simp only [hnone]
      exact ⟨_, rfl, ⟨⟨storable_nil, fun _ h => absurd h List.not_mem_nil⟩,
        .inl ⟨hstate.trans hnone, rfl⟩⟩, hentries.symm, fun _ => ⟨rfl, hnone⟩⟩
    · simp only [htext, hread]
      exact ⟨_, rfl, ⟨h.rewritable, .inr ⟨text, hstate.trans htext, hread⟩⟩, rfl,
        fun hnone => ⟨rfl, hstate.symm.trans hnone⟩⟩

/-- Every step goes well with the state file, also one in which a write fails. -/
theorem apply_spec {f : FileEntries} (h : Backend.Kept f) {step : FileStep}
    (hstep : step.Admissible) :
    ∃ ws f', step.apply (.file f) = .ok (ws, .file f') ∧ Keeps f ws f' := by
  have hsame : Keeps f [] f := ⟨h, rfl, fun hnone => ⟨rfl, hnone⟩⟩
  cases step with
  | write w =>
    obtain ⟨f', hf', hkeeps⟩ := keeps_write h hstep
    exact ⟨_, f', by rw [apply, hf'], hkeeps⟩
  | look key => exact ⟨[], f, rfl, hsame⟩
  | reopen =>
    refine ⟨[], f, ?_, hsame⟩
    rw [apply, Backend.reopen_of_durable (b := .file f) h, ok_bind, pure_eq_ok]
  | refuse refuses =>
    exact ⟨[], { f with refuses }, rfl, ⟨h.rewritable, h.onDisk⟩, rfl, fun hnone => ⟨rfl, hnone⟩⟩
  | litter beside =>
    exact ⟨[], { f with disk.temp := beside }, rfl, ⟨h.rewritable, h.onDisk⟩, rfl,
      fun hnone => ⟨rfl, hnone⟩⟩
  | stop w k =>
    obtain ⟨f', hf', hkeeps⟩ := keeps_stop h hstep k
    exact ⟨_, f', by rw [apply, hf', ok_bind, pure_eq_ok], hkeeps⟩

/-- A run never comes to a state file that cannot be opened. -/
theorem run_spec {steps : List FileStep} {f : FileEntries} (h : Backend.Kept f)
    (hsteps : ∀ step ∈ steps, step.Admissible) :
    ∃ ws f', run steps (.file f) = .ok (ws, .file f') ∧ Keeps f ws f' := by
  induction steps generalizing f with
  | nil => exact ⟨[], f, rfl, h, rfl, fun hnone => ⟨rfl, hnone⟩⟩
  | cons step steps ih =>
    obtain ⟨hstep, hsteps⟩ := List.forall_mem_cons.1 hsteps
    obtain ⟨ws, f₁, happly, hkeeps⟩ := apply_spec h hstep
    obtain ⟨ws', f₂, hrun, hkeeps'⟩ := ih hkeeps.kept hsteps
    exact ⟨ws ++ ws', f₂, by simp only [run, happly, hrun, ok_bind, pure_eq_ok],
      hkeeps.trans hkeeps'⟩

/-- Entries that are kept in a state file answer as entries in memory would that began with what
the file held and saw the writes that came through, whatever is refused and wherever the process
stops; a write that fails changes neither the entries nor the state file; and at every moment of a
write the state file is not there, if it was not at first and no write came through, or it is read
to the entries from before the write or from after it. -/
theorem run_atomic {path : String} {disk : Disk} {refuses : Nat → Option SystemError} {b₀ : Backend}
    (h₀ : Backend.openFile path disk refuses = .ok b₀)
    (hfree : ∀ e ∈ b₀.held, Json.FloatFree e.2) {steps : List FileStep}
    (hsteps : ∀ step ∈ steps, step.Admissible) :
    ∃ ws f, run steps b₀ = .ok (ws, .file f) ∧
      (∀ key, ∃ v, (Backend.file f).get key = .ok v ∧
        (EntryWrite.replay ws (Backend.ofEntries b₀.held)).get key = .ok v) ∧
      (∀ (w : EntryWrite) (e : StoreError), (w.apply (.file f)).1 = .error e →
        (w.apply (.file f)).2.held = f.entries ∧
        (w.apply (.file f)).2.document? = (Backend.file f).document?) ∧
      ∀ (w : EntryWrite) (k : Nat), w.Admissible →
        (f.diskAt w k).state = none ∧ ws = [] ∧ disk.state = none ∨
        ∃ text, (f.diskAt w k).state = some text ∧
          (StateFile.read text = .ok f.entries ∨
            StateFile.read text = .ok (w.change f.entries)) := by
  have hdurable : b₀.Durable := Backend.durable_of_opened (.file h₀ hfree)
  obtain ⟨entries, rfl⟩ := Backend.openFile_eq_ok h₀
  obtain ⟨ws, f, hrun, hf⟩ := run_spec hdurable hsteps
  refine ⟨ws, f, hrun, fun key => ?_, fun w e he => ?_, fun w k hw => ?_⟩
  · refine ⟨f.entries.get? key, rfl, ?_⟩
    rw [EntryWrite.replay_ofEntries, hf.entries]
    rfl
  · rw [EntryWrite.apply_eq] at he ⊢
    rcases Backend.update_cases w.change (.file f) with ⟨b, hb, -⟩ | ⟨e', b, hb, hheld, hdoc, -⟩
    · rw [hb] at he
      cases he
    · rw [hb]
      exact ⟨hheld, hdoc⟩
  · have hnew := EntryWrite.rewritable_change hw hf.kept.rewritable
    rcases diskAt_cases f w k with ⟨-, -, hstate⟩ | ⟨-, hstate⟩
    · exact .inr ⟨_, hstate, .inr (read_write hnew)⟩
    · rcases hf.kept.onDisk with ⟨hnone, -⟩ | ⟨text, htext, hread⟩
      · exact .inl ⟨hstate.trans hnone, hf.absent hnone⟩
      · exact .inr ⟨text, hstate.trans htext, .inl hread⟩

/-- There is no state file at first. A process stops before the file beside it takes its place, a
write is refused, one comes through, and a process stops when all steps are done. -/
theorem run_atomic_stoppedTwice :
    let disk : Disk := ⟨none, some "left over"⟩
    let b₀ : Backend := .file ⟨"state.json", [], disk, fun _ => none⟩
    let steps : List FileStep := [
      .stop (.set [("zone", .int 1), ("zone", .int 2)]) 3,
      .refuse fun i => if i = 3 then some .permissionDenied else none,
      .write (.set [("zone", .int 3)]),
      .refuse fun _ => none,
      .write (.set [("zone", .int 4), ("name", .str "x"), ("zone", .int 5)]),
      .litter (some "[1, 2"), .stop (.remove ["zone"]) 4, .look "name", .reopen]
    Backend.openFile "state.json" disk (fun _ => none) = .ok b₀ ∧
      (∀ e ∈ b₀.held, Json.FloatFree e.2) ∧ (∀ step ∈ steps, step.Admissible) ∧
      ∃ ws f, run steps b₀ = .ok (ws, .file f) ∧ ∀ key, ∃ v, (Backend.file f).get key = .ok v ∧
        (EntryWrite.replay ws (Backend.ofEntries b₀.held)).get key = .ok v := by
  intro disk b₀ steps
  have h₀ : Backend.openFile "state.json" disk (fun _ => none) = .ok b₀ := rfl
  have hfree : ∀ e ∈ b₀.held, Json.FloatFree e.2 := fun _ he => absurd he List.not_mem_nil
  have hnumber (n : Int) (h : Json.IsWhole64 n) : RewritableValue (.int n) := ⟨rfl, .int h, .int n⟩
  have hsteps : ∀ step ∈ steps, step.Admissible := by
    simp only [steps, List.forall_mem_cons, Admissible, EntryWrite.Admissible, true_and]
    refine ⟨⟨hnumber 1 (by decide), hnumber 2 (by decide), fun _ h => absurd h List.not_mem_nil⟩,
      ⟨hnumber 3 (by decide), fun _ h => absurd h List.not_mem_nil⟩,
      ⟨hnumber 4 (by decide), TokenStore.rewritableValue_str _, hnumber 5 (by decide),
        fun _ h => absurd h List.not_mem_nil⟩, fun _ h => absurd h List.not_mem_nil⟩
  obtain ⟨ws, f, hrun, hget, -⟩ := run_atomic h₀ hfree hsteps
  exact ⟨h₀, hfree, hsteps, ws, f, hrun, hget⟩

end FileStep

end Soql
