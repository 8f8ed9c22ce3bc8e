/-
# A store that many write and read

Who writes to the store takes a lock, writes the backend, changes the token in memory when that
succeeded, and gives the lock back (`SharedStore.Step`). Who reads the token takes no lock, so that
reads may come between any two of these steps. Taken without a break the steps of a writer are a
write of the store (`SharedStore.run_alone`).

Only one writer at a time is between taking the lock and giving it back (`SharedStore.Orderly`). So
the tokens that are in memory one after another are those that come of the writes that the backend
took, in the order in which the writers took the lock, and what is read is the latest of them
(`SharedStore.reads_committed`).

Key definitions: `WriteStage`, `Act`, `SharedStore`, `SharedStore.Step`, `SharedStore.Run`,
`SharedStore.Orderly`.
Key theorems: `SharedStore.run_alone`, `SharedStore.orderly_of_run`, `SharedStore.reads_committed`.
-/
import Mathlib.Logic.Function.Basic
import Soql.Proofs.Store.Runs

namespace Soql

/-- How far a writer has come. -/
inductive WriteStage where
  | waiting
  | holding
  /-- The backend took the write, and the token in memory is still the one before. -/
  | landed
  | leaving (r : Except StoreError Unit)
  | done (r : Except StoreError Unit)

/-- How far a writer has come when it has written the backend. -/
def WriteStage.after : Except StoreError Unit → WriteStage
  | .ok () => .landed
  | .error e => .leaving (.error e)

/-- A step of a writer, with what came of it, a read, or trouble in the system under the store. -/
inductive Act (ι κ : Type) where
  | took (i : ι)
  | wrote (i : ι) (r : Except StoreError Unit)
  | changed (i : ι) (token : Option Token)
  | released (i : ι)
  | got (k : κ) (token : Option Token)
  | trouble (readsFail writesFail : Bool) (refuses : Nat → Option SystemError)

variable {ι κ : Type}

namespace Act

def took? : Act ι κ → Option ι
  | .took i => some i
  | _ => none

/-- The writer whose write the backend took. -/
def landed? : Act ι κ → Option ι
  | .wrote i (.ok ()) => some i
  | _ => none

def changed? : Act ι κ → Option ι
  | .changed i _ => some i
  | _ => none

/-- The token that is in memory from now on. -/
def token? : Act ι κ → Option (Option Token)
  | .changed _ token => some token
  | _ => none

end Act

/-- Those who took the lock, in this order. -/
def takers (as : List (Act ι κ)) : List ι := as.filterMap Act.took?

/-- Those whose write the backend took. -/
def landers (as : List (Act ι κ)) : List ι := as.filterMap Act.landed?

/-- Those who changed the token in memory. -/
def changers (as : List (Act ι κ)) : List ι := as.filterMap Act.changed?

/-- The tokens that are in memory one after another, from a first one on. -/
def tokens (first : Option Token) (as : List (Act ι κ)) : List (Option Token) :=
  first :: as.filterMap Act.token?

section

variable (as : List (Act ι κ)) (a : Act ι κ)

theorem filterMap_concat {α : Type} (f : Act ι κ → Option α) :
    (as ++ [a]).filterMap f = as.filterMap f ++ (f a).toList := by
  rw [List.filterMap_append, List.filterMap_cons, List.filterMap_nil]
  cases f a <;> rfl

@[simp]
theorem takers_concat : takers (as ++ [a]) = takers as ++ a.took?.toList :=
  filterMap_concat as a _

@[simp]
theorem landers_concat : landers (as ++ [a]) = landers as ++ a.landed?.toList :=
  filterMap_concat as a _

@[simp]
theorem changers_concat : changers (as ++ [a]) = changers as ++ a.changed?.toList :=
  filterMap_concat as a _

theorem tokens_concat (first : Option Token) :
    tokens first (as ++ [a]) = tokens first as ++ a.token?.toList :=
  congrArg (first :: ·) (filterMap_concat as a _)

end

/-- A store, who holds the lock, and how far all writers have come. -/
structure SharedStore (ι : Type) where
  store : TokenStore
  lock : Option ι
  stage : ι → WriteStage

namespace SharedStore

/-- No writer has come yet. -/
def start (s : TokenStore) : SharedStore ι := ⟨s, none, fun _ => .waiting⟩

section

variable [DecidableEq ι]

def move (c : SharedStore ι) (i : ι) (stage : WriteStage) : SharedStore ι :=
  { c with stage := Function.update c.stage i stage }

/-- One step, where the writer `i` is to do the write `w i`. -/
inductive Step (w : ι → StoreWrite) : SharedStore ι → Act ι κ → SharedStore ι → Prop where
  | take {c} (i) (hfree : c.lock = none) (h : c.stage i = .waiting) :
    Step w c (.took i) { c.move i .holding with lock := some i }
  | write {c} (i) {r b} (h : c.stage i = .holding)
    (hwrite : c.store.backend.update (w i).step.change = (r, b)) :
    Step w c (.wrote i r) { c.move i (.after r) with store.backend := b }
  | change {c} (i) (h : c.stage i = .landed) :
    Step w c (.changed i ((w i).step.then_ c.store.token))
      { c.move i (.leaving (.ok ())) with store.token := (w i).step.then_ c.store.token }
  | release {c} (i) {r} (h : c.stage i = .leaving r) :
    Step w c (.released i) { c.move i (.done r) with lock := none }
  | get {c} (k) : Step w c (.got k c.store.token) c
  | trouble {c} (readsFail writesFail refuses) :
    Step w c (.trouble readsFail writesFail refuses)
      { c with store.backend := c.store.backend.troubled readsFail writesFail refuses }

/-- Steps one after another. -/
inductive Run (w : ι → StoreWrite) (c : SharedStore ι) : List (Act ι κ) → SharedStore ι → Prop where
  | refl : Run w c [] c
  | step {as c' a c''} (h : Run w c as c') (hstep : Step w c' a c'') : Run w c (as ++ [a]) c''

/-- The steps of one writer, with nobody else at work, are its write of the store. -/
theorem run_alone (w : ι → StoreWrite) {c : SharedStore ι} {i : ι} (hfree : c.lock = none)
    (hi : c.stage i = .waiting) :
    ∃ as : List (Act ι κ), Run w c as ⟨((w i).apply c.store).2, none,
      Function.update c.stage i (.done ((w i).apply c.store).1)⟩ := by
  rw [StoreWrite.apply_eq, TokenStore.write]
  rcases hwrite : c.store.backend.update (w i).step.change with ⟨r, b⟩
  have htook := Run.refl.step (.take (κ := κ) (w := w) i hfree hi)
  have hwritten := htook.step (.write i (Function.update_self ..) hwrite)
  cases r with
  | ok u =>
    have hchanged := hwritten.step (.change i (Function.update_self ..))
    have hreleased := hchanged.step (.release i (Function.update_self ..))
    simp only [move, Function.update_idem] at hreleased
    exact ⟨_, hreleased⟩
  | error e =>
    have hreleased := hwritten.step (.release i (Function.update_self ..))
    simp only [move, Function.update_idem] at hreleased
    exact ⟨_, hreleased⟩

/-! ### What is held -/

variable {w : ι → StoreWrite} {c c' : SharedStore ι} {as : List (Act ι κ)}

/-- What the backend holds changes at the writes that it takes. -/
theorem Step.held {a : Act ι κ} (h : Step w c a c') :
    c'.store.backend.held =
      a.landed?.toList.foldl (fun l i => (w i).step.change l) c.store.backend.held := by
  cases h with
  | write i h hwrite =>
    rcases Backend.update_cases (w i).step.change c.store.backend with
      ⟨b, hb, hheld, -⟩ | ⟨e, b, hb, hheld, -⟩
    · obtain ⟨rfl, rfl⟩ := Prod.mk.inj (hb.symm.trans hwrite)
      exact hheld
    · obtain ⟨rfl, rfl⟩ := Prod.mk.inj (hb.symm.trans hwrite)
      exact hheld
  | trouble readsFail writesFail refuses => exact c.store.backend.held_troubled _ _ _
  | _ => rfl

theorem Run.held (h : Run w c as c') :
    c'.store.backend.held =
      (landers as).foldl (fun l i => (w i).step.change l) c.store.backend.held := by
  induction h with
  | refl => rfl
  | step _ hstep ih => rw [landers_concat, List.foldl_append, ← ih, hstep.held]

/-- The token in memory changes when a writer changes it. -/
theorem Step.token {a : Act ι κ} (h : Step w c a c') :
    c'.store.token = a.changed?.toList.foldl (fun t i => (w i).step.then_ t) c.store.token := by
  cases h <;> rfl

theorem Run.token (h : Run w c as c') :
    c'.store.token = (changers as).foldl (fun t i => (w i).step.then_ t) c.store.token := by
  induction h with
  | refl => rfl
  | step _ hstep ih => rw [changers_concat, List.foldl_append, ← ih, hstep.token]

theorem Step.tokens {a : Act ι κ} (h : Step w c a c') :
    a.token?.toList =
      (a.changed?.toList.scanl (fun t i => (w i).step.then_ t) c.store.token).tail := by
  cases h <;> rfl

/-- The tokens that are in memory one after another are those that the changes make of each
other. -/
theorem Run.tokens (h : Run w c as c') :
    tokens c.store.token as =
      (changers as).scanl (fun t i => (w i).step.then_ t) c.store.token := by
  induction h with
  | refl => rfl
  | step hrun hstep ih =>
    rw [tokens_concat, changers_concat, List.scanl_append, ← ih, ← hrun.token, hstep.tokens]

end

/-! ### One writer at a time -/

variable {c c' : SharedStore ι} {as : List (Act ι κ)} {i : ι}

/-- A writer has not come yet, or it is done, with what the backend made of its write. -/
inductive Aside (as : List (Act ι κ)) (i : ι) : WriteStage → Prop where
  | waiting (h : i ∉ takers as) : Aside as i .waiting
  | done (r) (h : i ∈ takers as) (landed : r = .ok () ↔ i ∈ landers as) : Aside as i (.done r)

/-- What became of the write of the one who holds the lock, where `l` are those whose writes landed
before. -/
inductive Midway (as : List (Act ι κ)) (l : List ι) (i : ι) : WriteStage → Prop where
  | holding (landed : landers as = l) (changed : changers as = l) : Midway as l i .holding
  | landed (landed : landers as = l ++ [i]) (changed : changers as = l) : Midway as l i .landed
  | changed (landed : landers as = l ++ [i]) (changed : changers as = l ++ [i]) :
    Midway as l i (.leaving (.ok ()))
  | failed (e) (landed : landers as = l) (changed : changers as = l) :
    Midway as l i (.leaving (.error e))

/-- Somebody holds the lock, who came last, and all others have not come yet or are done. -/
structure Held (as : List (Act ι κ)) (c : SharedStore ι) (before l : List ι) (i : ι) : Prop where
  lock : c.lock = some i
  came : takers as = before ++ [i]
  nodup : (before ++ [i]).Nodup
  landed : l.Sublist before
  others : ∀ j ≠ i, Aside as j (c.stage j)
  stage : Midway as l i (c.stage i)

/-- Nobody holds the lock, and all have not come yet or are done. -/
structure Free (as : List (Act ι κ)) (c : SharedStore ι) : Prop where
  lock : c.lock = none
  nodup : (takers as).Nodup
  landed : (landers as).Sublist (takers as)
  changed : changers as = landers as
  others : ∀ i, Aside as i (c.stage i)

/-- What holds between two steps. -/
inductive Orderly (as : List (Act ι κ)) (c : SharedStore ι) : Prop where
  | free (h : Free as c)
  | held (before l i) (h : Held as c before l i)

/-- Who neither takes the lock nor has its write land stays aside. -/
theorem Aside.concat {stage : WriteStage} (h : Aside as i stage) {a : Act ι κ}
    (htook : a.took? ≠ some i) (hlanded : a.landed? ≠ some i) : Aside (as ++ [a]) i stage := by
  have htakers : i ∈ takers (as ++ [a]) ↔ i ∈ takers as := by simp [htook]
  have hlanders : i ∈ landers (as ++ [a]) ↔ i ∈ landers as := by simp [hlanded]
  cases h with
  | waiting h => exact .waiting fun hi => h (htakers.1 hi)
  | done r h landed => exact .done r (htakers.2 h) (landed.trans hlanders.symm)

theorem Midway.congr {as' : List (Act ι κ)} {l : List ι} {stage : WriteStage}
    (h : Midway as l i stage) (hlanders : landers as' = landers as)
    (hchangers : changers as' = changers as) : Midway as' l i stage := by
  cases h with
  | holding landed changed => exact .holding (hlanders.trans landed) (hchangers.trans changed)
  | landed landed changed => exact .landed (hlanders.trans landed) (hchangers.trans changed)
  | changed landed changed => exact .changed (hlanders.trans landed) (hchangers.trans changed)
  | failed e landed changed => exact .failed e (hlanders.trans landed) (hchangers.trans changed)

theorem Midway.landers_sublist {l : List ι} {stage : WriteStage} (h : Midway as l i stage) :
    (landers as).Sublist (l ++ [i]) := by
  cases h with
  | holding landed changed => exact landed ▸ List.sublist_append_left l [i]
  | landed landed changed => exact landed ▸ List.Sublist.refl _
  | changed landed changed => exact landed ▸ List.Sublist.refl _
  | failed e landed changed => exact landed ▸ List.sublist_append_left l [i]

theorem Held.landers_sublist {before l : List ι} (h : Held as c before l i) :
    (landers as).Sublist (before ++ [i]) :=
  h.stage.landers_sublist.trans (h.landed.append (List.Sublist.refl _))

/-- Who is neither waiting nor done holds the lock. -/
theorem Orderly.held_of_stage (h : Orderly as c) (hi : ¬Aside as i (c.stage i)) :
    ∃ before l, Held as c before l i := by
  cases h with
  | free h => exact absurd (h.others i) hi
  | held before l j h =>
    by_cases hj : i = j
    · exact ⟨before, l, hj ▸ h⟩
    · exact absurd (h.others i hj) hi

/-- Between two steps all writes that landed are in the token in memory, but perhaps that of the one
who holds the lock. -/
theorem Orderly.pending (h : Orderly as c) :
    ∃ pending, landers as = changers as ++ pending ∧ pending.length ≤ 1 ∧
      ∀ i ∈ pending, c.lock = some i ∧ c.stage i = .landed := by
  have nobody (hsame : changers as = landers as) : ∃ pending, landers as = changers as ++ pending ∧
      pending.length ≤ 1 ∧ ∀ i ∈ pending, c.lock = some i ∧ c.stage i = .landed :=
    ⟨[], by rw [hsame, List.append_nil], Nat.zero_le _, nofun⟩
  cases h with
  | free h => exact nobody h.changed
  | held before l i h =>
    have hstage := h.stage
    generalize hi : c.stage i = stage at hstage
    cases hstage with
    | holding landed changed => exact nobody (changed.trans landed.symm)
    | landed landed changed =>
      refine ⟨[i], by rw [landed, changed], Nat.le_refl _, fun j hj => ?_⟩
      rw [List.mem_singleton.1 hj]
      exact ⟨h.lock, hi⟩
    | changed landed changed => exact nobody (changed.trans landed.symm)
    | failed e landed changed => exact nobody (changed.trans landed.symm)

/-- The writes landed in the order in which the writers took the lock. -/
theorem Orderly.landers_sublist (h : Orderly as c) :
    (takers as).Nodup ∧ (landers as).Sublist (takers as) := by
  cases h with
  | free h => exact ⟨h.nodup, h.landed⟩
  | held before l i h => exact ⟨h.came ▸ h.nodup, h.came ▸ h.landers_sublist⟩

/-- A write succeeds when it landed. -/
theorem Orderly.done_iff (h : Orderly as c) {r : Except StoreError Unit}
    (hi : c.stage i = .done r) : r = .ok () ↔ i ∈ landers as := by
  have haside : Aside as i (c.stage i) := by
    by_contra hmidway
    obtain ⟨before, l, h⟩ := h.held_of_stage hmidway
    have hstage := h.stage
    rw [hi] at hstage
    cases hstage
  rw [hi] at haside
  cases haside with
  | done r h landed => exact landed

section

variable [DecidableEq ι] {before l : List ι} {stage : WriteStage} {r : Except StoreError Unit}

theorem aside_update (h : ∀ j ≠ i, Aside as j (c.stage j)) {a : Act ι κ}
    (htook : ∀ j ≠ i, a.took? ≠ some j) (hlanded : ∀ j ≠ i, a.landed? ≠ some j) :
    ∀ j ≠ i, Aside (as ++ [a]) j (Function.update c.stage i stage j) := by
  intro j hj
  rw [Function.update_of_ne hj]
  exact (h j hj).concat (htook j hj) (hlanded j hj)

/-- Who holds the lock goes on, or something happens that no writer does. -/
theorem Held.concat (h : Held as c before l i) {a : Act ι κ} (hlock : c'.lock = c.lock)
    (hstages : c'.stage = Function.update c.stage i stage) (htook : a.took? = none)
    (hlanded : ∀ j ≠ i, a.landed? ≠ some j) (hstage : Midway (as ++ [a]) l i stage) :
    Held (as ++ [a]) c' before l i where
  lock := hlock.trans h.lock
  came := by rw [takers_concat, htook, h.came, Option.toList_none, List.append_nil]
  nodup := h.nodup
  landed := h.landed
  others := hstages ▸ aside_update h.others (by simp [htook]) hlanded
  stage := by rwa [hstages, Function.update_self]

/-- Somebody takes the lock. -/
theorem Free.take (h : Free as c) (hi : c.stage i = .waiting) :
    Held (as ++ [.took i]) { c.move i .holding with lock := some i } (takers as) (landers as)
      i := by
  have hnew : i ∉ takers as := by
    have hothers := h.others i
    rw [hi] at hothers
    cases hothers with
    | waiting hnew => exact hnew
  refine ⟨rfl, takers_concat .., ?_, h.landed, ?_, ?_⟩
  · exact List.nodup_append.2 ⟨h.nodup, List.pairwise_singleton _ i, by
      rintro j hj k hk rfl
      exact hnew (List.mem_singleton.1 hk ▸ hj)⟩
  · exact aside_update (fun j _ => h.others j) (fun j hj h => hj (Option.some.inj h).symm) nofun
  · show Midway _ _ i (Function.update c.stage i .holding i)
    rw [Function.update_self]
    exact .holding (by simp [Act.landed?]) (by simp [Act.changed?, h.changed])

/-- Who holds the lock gives it back. -/
theorem Held.release (h : Held as c before l i) (hi : c.stage i = .leaving r) :
    Free (as ++ [.released i]) { c.move i (.done r) with lock := none } := by
  have htakers : takers (as ++ [.released i]) = before ++ [i] := by
    simp [Act.took?, h.came]
  have hlanders : landers (as ++ [.released i]) = landers as := by simp [Act.landed?]
  have hchangers : changers (as ++ [.released i]) = changers as := by simp [Act.changed?]
  have hi' : i ∉ l := fun hl => (List.nodup_append.1 h.nodup).2.2 i (h.landed.subset hl) i
    (List.mem_singleton_self i) rfl
  have hstage := h.stage
  rw [hi] at hstage
  -- its write landed and it changed the token, or neither
  obtain ⟨hsame, hr⟩ : changers as = landers as ∧ (r = .ok () ↔ i ∈ landers as) := by
    cases hstage with
    | changed landed changed =>
      rw [landed, changed]
      exact ⟨rfl, by simp⟩
    | failed e landed changed =>
      rw [landed, changed]
      exact ⟨rfl, by simp [hi']⟩
  refine ⟨rfl, htakers ▸ h.nodup, ?_, hchangers.trans (hsame.trans hlanders.symm), fun j => ?_⟩
  · rw [hlanders, htakers]
    exact h.landers_sublist
  · by_cases hj : j = i
    · subst hj
      show Aside _ j (Function.update c.stage j (.done r) j)
      rw [Function.update_self]
      exact .done r (by simp [htakers]) (by rwa [hlanders])
    · refine aside_update h.others ?_ ?_ j hj <;> exact fun _ _ => nofun

/-- Who holds the lock writes the backend. -/
theorem Held.write (h : Held as c before l i) (hi : c.stage i = .holding) {b : TokenStore} :
    Held (as ++ [.wrote i r]) { c.move i (.after r) with store := b } before l i := by
  have hstage := h.stage
  rw [hi] at hstage
  obtain ⟨landed, changed⟩ := hstage
  have hchangers : changers (as ++ [.wrote i r]) = l := by simp [Act.changed?, changed]
  refine h.concat rfl rfl rfl (fun j hj hr => ?_) ?_
  · cases r with
    | ok u => exact hj (Option.some.inj hr).symm
    | error e => cases hr
  · cases r with
    | ok u => exact .landed (by simp [Act.landed?, landed]) hchangers
    | error e => exact .failed e (by simp [Act.landed?, landed]) hchangers

/-- Who holds the lock changes the token in memory. -/
theorem Held.change (h : Held as c before l i) (hi : c.stage i = .landed) (t : Option Token)
    {b : TokenStore} :
    Held (as ++ [.changed i t]) { c.move i (.leaving (.ok ())) with store := b } before l i := by
  have hstage := h.stage
  rw [hi] at hstage
  cases hstage with
  | landed landed changed =>
    exact h.concat rfl rfl rfl (fun j _ => nofun)
      (.changed (by simp [Act.landed?, landed]) (by simp [Act.changed?, changed]))

/-- What no writer does leaves all writers where they are. -/
theorem Orderly.concat (h : Orderly as c) {a : Act ι κ} {b : TokenStore} (htook : a.took? = none)
    (hlanded : a.landed? = none) (hchanged : a.changed? = none) :
    Orderly (as ++ [a]) { c with store := b } := by
  have htakers : takers (as ++ [a]) = takers as := by simp [htook]
  have hlanders : landers (as ++ [a]) = landers as := by simp [hlanded]
  have hchangers : changers (as ++ [a]) = changers as := by simp [hchanged]
  cases h with
  | free h =>
    refine .free ⟨h.lock, htakers ▸ h.nodup, by rw [hlanders, htakers]; exact h.landed,
      hchangers.trans (h.changed.trans hlanders.symm), fun j => ?_⟩
    exact (h.others j).concat (by simp [htook]) (by simp [hlanded])
  | held before l j h =>
    exact .held before l j (h.concat rfl (Function.update_eq_self j c.stage).symm htook
      (by simp [hlanded]) (h.stage.congr hlanders hchangers))

/-- Every step keeps the order. -/
theorem orderly_step {w : ι → StoreWrite} {a : Act ι κ} (h : Orderly as c)
    (hstep : Step w c a c') : Orderly (as ++ [a]) c' := by
  cases hstep with
  | take i hfree hi =>
    cases h with
    | held before l j h => cases hfree.symm.trans h.lock
    | free h => exact .held _ _ i (h.take hi)
  | write i hi hwrite =>
    obtain ⟨before, l, h⟩ := h.held_of_stage (i := i) (by rw [hi]; nofun)
    exact .held before l i (h.write hi)
  | change i hi =>
    obtain ⟨before, l, h⟩ := h.held_of_stage (i := i) (by rw [hi]; nofun)
    exact .held before l i (h.change hi _)
  | release i hi =>
    obtain ⟨before, l, h⟩ := h.held_of_stage (i := i) (by rw [hi]; nofun)
    exact .free (h.release hi)
  | get k => exact h.concat rfl rfl rfl
  | trouble readsFail writesFail refuses => exact h.concat rfl rfl rfl

theorem orderly_of_run {w : ι → StoreWrite} {s : TokenStore} (h : Run w (start s) as c) :
    Orderly as c := by
  induction h with
  | refl => exact .free ⟨rfl, List.nodup_nil, .slnil, rfl, fun _ => .waiting List.not_mem_nil⟩
  | step _ hstep ih => exact orderly_step ih hstep

end

/-! ### What is read -/

section

variable [DecidableEq ι] {w : ι → StoreWrite} {s : TokenStore}

/-- A run up to a step, and the step. -/
theorem Run.of_append {c₀ : SharedStore ι} {before after : List (Act ι κ)} {a : Act ι κ}
    (h : Run w c₀ (before ++ a :: after) c) :
    ∃ c₁ c₂, Run w c₀ before c₁ ∧ Step w c₁ a c₂ := by
  generalize hacts : before ++ a :: after = acts at h
  induction h generalizing after with
  | refl => simp at hacts
  | @step as' c' a' c'' hrun hstep ih =>
    rcases List.eq_nil_or_concat after with rfl | ⟨after', a'', rfl⟩
    · obtain ⟨rfl, heq⟩ := List.append_inj' hacts rfl
      obtain rfl := List.singleton_inj.1 heq
      exact ⟨c', c'', hrun, hstep⟩
    · rw [List.concat_eq_append, ← List.cons_append, ← List.append_assoc] at hacts
      exact ih (List.append_inj' hacts rfl).1

/-- What is read is the token that the changes so far have made. -/
theorem got_of_run {before after : List (Act ι κ)} {k : κ} {t : Option Token}
    (h : Run w (start s) (before ++ .got k t :: after) c) :
    changers before <+: landers before ∧ (tokens s.token before).getLast? = some t ∧
      (tokens s.token (before ++ .got k t :: after))[(changers before).length]? = some t := by
  obtain ⟨c₁, c₂, hrun, hstep⟩ := h.of_append
  have ht : t = (changers before).foldl (fun t i => (w i).step.then_ t) s.token := by
    cases hstep
    exact hrun.token
  obtain ⟨pending, hpending, -⟩ := (orderly_of_run hrun).pending
  refine ⟨⟨pending, hpending.symm⟩, ?_, ?_⟩
  · have hlast := congrArg List.getLast? hrun.tokens
    rw [List.getLast?_scanl] at hlast
    exact ht ▸ hlast
  · have hchangers : changers (before ++ .got k t :: after) = changers before ++ changers after :=
      List.filterMap_append
    have htokens := congrArg (fun l : List (Option Token) => l[(changers before).length]?) h.tokens
    rw [hchangers, List.getElem?_scanl, if_pos (by simp), List.take_left] at htokens
    exact ht ▸ htokens

/-- Whatever writers and readers come, in whatever order they take their steps and whatever writes
fail: the writes that the backend took are those of the writers that succeeded, in the order in
which they took the lock, and the backend holds what they make of each other. They are all in the
token in memory too, but that of a writer which holds the lock and is about to change the token. The
tokens that are in memory one after another are what these writes make of each other. Whoever reads
has the last one of them, which comes of writes that the backend took before, and whoever reads
later has that one or a later one. -/
theorem reads_committed (w : ι → StoreWrite) (s : TokenStore) {as : List (Act ι κ)}
    {c : SharedStore ι} (h : Run w (start s) as c) :
    (takers as).Nodup ∧ (landers as).Sublist (takers as) ∧
    (∀ i r, c.stage i = .done r → (r = .ok () ↔ i ∈ landers as)) ∧
    c.store.backend.held = (landers as).foldl (fun l i => (w i).step.change l) s.backend.held ∧
    (∃ pending, landers as = changers as ++ pending ∧ pending.length ≤ 1 ∧
      ∀ i ∈ pending, c.lock = some i ∧ c.stage i = .landed) ∧
    tokens s.token as = (changers as).scanl (fun t i => (w i).step.then_ t) s.token ∧
    (∀ before k t after, as = before ++ .got k t :: after →
      changers before <+: landers before ∧ (tokens s.token before).getLast? = some t ∧
        (tokens s.token as)[(changers before).length]? = some t) ∧
    ∀ before k t between k' t' after, as = before ++ .got k t :: (between ++ .got k' t' :: after) →
      let m := (changers before).length
      let n := (changers (before ++ .got k t :: between)).length
      m ≤ n ∧ (tokens s.token as)[m]? = some t ∧ (tokens s.token as)[n]? = some t' := by
  have horderly := orderly_of_run h
  obtain ⟨hnodup, hlanders⟩ := horderly.landers_sublist
  refine ⟨hnodup, hlanders, fun i r hi => horderly.done_iff hi, h.held, horderly.pending, h.tokens,
    ?_, ?_⟩
  · rintro before k t after rfl
    exact got_of_run h
  · rintro before k t between k' t' after rfl
    have hsplit : before ++ .got k t :: (between ++ .got k' t' :: after) =
        (before ++ .got k t :: between) ++ .got k' t' :: after := by simp
    have hlater := (got_of_run (hsplit ▸ h)).2.2
    refine ⟨?_, (got_of_run h).2.2, hsplit ▸ hlater⟩
    rw [changers, changers, List.filterMap_append, List.length_append]
    exact Nat.le_add_right ..

end

/-- One reads at every step of a writer that succeeds, and another writer fails after that. -/
theorem reads_committed_oneFails :
    let s : TokenStore := ⟨.ofEntries [], none, TokenStore.commonInstance⟩
    let t : Token := ⟨"t", 1700000000000, TokenStore.commonInstance⟩
    let w : Bool → StoreWrite := fun i => if i then .clear else .put t
    ∃ (as : List (Act Bool Unit)) (c : SharedStore Bool), Run w (start s) as c ∧
      takers as = [false, true] ∧ landers as = [false] ∧ c.lock = none ∧
      c.store.token = some t ∧
      tokens s.token as = (landers as).scanl (fun t i => (w i).step.then_ t) s.token := by
  intro s t w
  have hrun := Run.refl (κ := Unit) (w := w) (c := start s)
  have hrun := ((hrun.step (.take false rfl rfl)).step (.get ())).step (.write false rfl rfl)
  have hrun := ((hrun.step (.get ())).step (.change false rfl)).step (.get ())
  have hrun := (hrun.step (.release false rfl)).step (.trouble false true fun _ => none)
  have hrun := ((hrun.step (.take true rfl rfl)).step (.write true rfl rfl)).step
    (.release true rfl)
  have hrun := hrun.step (.get ())
  refine ⟨_, _, hrun, rfl, rfl, rfl, rfl, ?_⟩
  obtain ⟨-, -, -, -, ⟨pending, hpending, -, hlock⟩, htokens, -⟩ := reads_committed w s hrun
  have hnone : pending = [] := List.eq_nil_iff_forall_not_mem.2 fun i hi => by
    cases (hlock i hi).1
  rw [htokens, hpending, hnone, List.append_nil]

end SharedStore

end Soql
