/-
# Work in steps

The work of a session, cut into the steps at which it meets the others who work on the
session and the world outside. A step is done as a whole; between two steps others may
take theirs. `run` does all steps with nobody else at work.

A step that reads the store may have to work out the age of the token, and the work panics there
when that does not fit. `runOrPanic` does the steps up to such a one; `run` passes over it.

Key definitions: `Work`, `Work.bind`, `Work.run`, `Work.runOrPanic`.
Key theorems: `Work.runOrPanic_cases`, `Work.run_bind`, `Work.runOrPanic_bind`.
-/
import Soql.Session.Basic

namespace Soql

/-- Work that is done step by step, with a result at its end. -/
inductive Work (α : Type) where
  | done (result : α)
  /-- Waits until nobody is signing in, and keeps the others from it. -/
  | acquire (next : Work α)
  /-- Lets others sign in. -/
  | release (next : Work α)
  /-- Reads the store, and works out the age of its token at a time if one is given. -/
  | look (at_ : Option Int64) (next : TokenStore → Work α)
  /-- Writes to the store. -/
  | change (write : TokenStore → Except StoreError Unit × TokenStore)
      (next : Except StoreError Unit → Work α)
  | enter (phase : SignIn.Phase) (next : Work α)
  | clock (next : Int64 → Work α)
  /-- Draws a text that nobody can guess. -/
  | nonce (next : String → Work α)
  /-- Opens a page. -/
  | launch (url : String) (next : SignIn.Launch → Work α)
  /-- Makes a call. -/
  | send (call : Api.Call) (next : Api.Reply → Work α)

namespace Work

variable {α β : Type}

/-- Some work and then more that depends on its result. -/
def bind : Work α → (α → Work β) → Work β
  | done a, k => k a
  | acquire t, k => acquire (t.bind k)
  | release t, k => release (t.bind k)
  | look n t, k => look n fun s => (t s).bind k
  | change w t, k => change w fun r => (t r).bind k
  | enter p t, k => enter p (t.bind k)
  | clock t, k => clock fun n => (t n).bind k
  | nonce t, k => nonce fun n => (t n).bind k
  | launch u t, k => launch u fun l => (t l).bind k
  | send c t, k => send c fun r => (t r).bind k

instance : Monad Work where
  pure := done
  bind := bind

/-- All steps, with nobody else at work. -/
def run (o : Outside) : Work α → Session → α × Session
  | done a, s => (a, s)
  | acquire t, s => t.run o { s with busy := true }
  | release t, s => t.run o { s with busy := false }
  | look _ t, s => (t s.store).run o s
  | change w t, s => (t (w s.store).1).run o { s with store := (w s.store).2 }
  | enter p t, s => t.run o { s with phase := p }
  | clock t, s => (t o.now).run o s
  | nonce t, s => (t o.nonce).run o s
  | launch u t, s =>
    (t (o.launch s.launched.length u)).run o { s with launched := s.launched ++ [u] }
  | send c t, s => (t (o.reply s.calls.length c)).run o { s with calls := s.calls ++ [c] }

/-- All steps, with nobody else at work, unless one of them panics. -/
def runOrPanic (o : Outside) : Work α → Session → Except Panic (α × Session)
  | done a, s => return (a, s)
  | acquire t, s => t.runOrPanic o { s with busy := true }
  | release t, s => t.runOrPanic o { s with busy := false }
  | look n t, s => do
    n.forM s.store.checkAge
    (t s.store).runOrPanic o s
  | change w t, s => (t (w s.store).1).runOrPanic o { s with store := (w s.store).2 }
  | enter p t, s => t.runOrPanic o { s with phase := p }
  | clock t, s => (t o.now).runOrPanic o s
  | nonce t, s => (t o.nonce).runOrPanic o s
  | launch u t, s =>
    (t (o.launch s.launched.length u)).runOrPanic o { s with launched := s.launched ++ [u] }
  | send c t, s =>
    (t (o.reply s.calls.length c)).runOrPanic o { s with calls := s.calls ++ [c] }

/-- Work comes to what `run` says, or it panics. -/
theorem runOrPanic_cases (o : Outside) : ∀ (t : Work α) (s : Session),
    t.runOrPanic o s = .ok (t.run o s) ∨ ∃ p, t.runOrPanic o s = .error p
  | done _, _ => .inl rfl
  | acquire t, _ => runOrPanic_cases o t _
  | release t, _ => runOrPanic_cases o t _
  | look n t, s => by
    rw [runOrPanic, run]
    cases n.forM s.store.checkAge with
    | ok _ => exact runOrPanic_cases o (t s.store) s
    | error p => exact .inr ⟨p, rfl⟩
  | change _ t, _ => runOrPanic_cases o (t _) _
  | enter _ t, _ => runOrPanic_cases o t _
  | clock t, _ => runOrPanic_cases o (t _) _
  | nonce t, _ => runOrPanic_cases o (t _) _
  | launch _ t, _ => runOrPanic_cases o (t _) _
  | send _ t, _ => runOrPanic_cases o (t _) _

/-- The later work begins where the earlier one ends. -/
theorem run_bind (o : Outside) (k : α → Work β) :
    ∀ (t : Work α) (s : Session), (t.bind k).run o s = (k (t.run o s).1).run o (t.run o s).2
  | done _, _ => rfl
  | acquire t, _ => run_bind o k t _
  | release t, _ => run_bind o k t _
  | look _ t, _ => run_bind o k (t _) _
  | change _ t, _ => run_bind o k (t _) _
  | enter _ t, _ => run_bind o k t _
  | clock t, _ => run_bind o k (t _) _
  | nonce t, _ => run_bind o k (t _) _
  | launch _ t, _ => run_bind o k (t _) _
  | send _ t, _ => run_bind o k (t _) _

/-- The later work begins where the earlier one ends, unless that panics. -/
theorem runOrPanic_bind (o : Outside) (k : α → Work β) : ∀ (t : Work α) (s : Session),
    (t.bind k).runOrPanic o s = t.runOrPanic o s >>= fun r => (k r.1).runOrPanic o r.2
  | done _, _ => rfl
  | acquire t, _ => runOrPanic_bind o k t _
  | release t, _ => runOrPanic_bind o k t _
  | look n t, s => by
    rw [bind, runOrPanic, runOrPanic]
    cases n.forM s.store.checkAge with
    | ok _ => exact runOrPanic_bind o k (t s.store) s
    | error p => rfl
  | change _ t, _ => runOrPanic_bind o k (t _) _
  | enter _ t, _ => runOrPanic_bind o k t _
  | clock t, _ => runOrPanic_bind o k (t _) _
  | nonce t, _ => runOrPanic_bind o k (t _) _
  | launch _ t, _ => runOrPanic_bind o k (t _) _
  | send _ t, _ => runOrPanic_bind o k (t _) _

@[simp]
theorem run_pure (o : Outside) (a : α) (s : Session) : (pure a : Work α).run o s = (a, s) := rfl

@[simp]
theorem run_seq (o : Outside) (t : Work α) (k : α → Work β) (s : Session) :
    (t >>= k).run o s = (k (t.run o s).1).run o (t.run o s).2 := run_bind o k t s

@[simp]
theorem runOrPanic_pure (o : Outside) (a : α) (s : Session) :
    (pure a : Work α).runOrPanic o s = .ok (a, s) := rfl

@[simp]
theorem runOrPanic_seq (o : Outside) (t : Work α) (k : α → Work β) (s : Session) :
    (t >>= k).runOrPanic o s = t.runOrPanic o s >>= fun r => (k r.1).runOrPanic o r.2 :=
  runOrPanic_bind o k t s

/-! ### Steps of one's own -/

def getStore : Work TokenStore := look none done

/-- The store, with the age of its token worked out. -/
def getStoreAt (now : Int64) : Work TokenStore := look (some now) done

def write (f : TokenStore → Except StoreError Unit × TokenStore) : Work (Except StoreError Unit) :=
  change f done

def now : Work Int64 := clock done

@[simp]
theorem run_getStore (o : Outside) (s : Session) : getStore.run o s = (s.store, s) := rfl

@[simp]
theorem run_getStoreAt (o : Outside) (now : Int64) (s : Session) :
    (getStoreAt now).run o s = (s.store, s) := rfl

@[simp]
theorem run_write (o : Outside) (f : TokenStore → Except StoreError Unit × TokenStore)
    (s : Session) : (write f).run o s = ((f s.store).1, { s with store := (f s.store).2 }) := rfl

@[simp]
theorem run_now (o : Outside) (s : Session) : now.run o s = (o.now, s) := rfl

@[simp]
theorem runOrPanic_getStore (o : Outside) (s : Session) :
    getStore.runOrPanic o s = .ok (s.store, s) := rfl

@[simp]
theorem runOrPanic_getStoreAt (o : Outside) (now : Int64) (s : Session) :
    (getStoreAt now).runOrPanic o s = do
      s.store.checkAge now
      return (s.store, s) := rfl

@[simp]
theorem runOrPanic_now (o : Outside) (s : Session) : now.runOrPanic o s = .ok (o.now, s) := rfl

/-- The status at a time, with the instance and the token read one after the other. -/
def status (now : Int64) : Work (Except StoreError TokenStore.Status) := do
  match (← getStore).instanceUrl with
  | .error e => return .error e
  | .ok instanceUrl => return .ok (TokenStore.statusOf (← getStoreAt now).token instanceUrl now)

end Work

end Soql
