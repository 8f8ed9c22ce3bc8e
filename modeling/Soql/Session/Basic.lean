/-
# Sessions

What those who work in a session share: the token store, how far signing in has come, whether
somebody is signing in, and what was asked of the world outside so far. The world answers
by its own rules (`Outside`).

Key definitions: `Session`, `Outside`, `Session.openOn`.
-/
import Soql.Api.Basic
import Soql.SignIn.Basic
import Soql.Store.TokenStore

namespace Soql

structure Session where
  store : TokenStore
  phase : SignIn.Phase
  /-- Somebody is signing in. -/
  busy : Bool
  /-- The pages that were opened. -/
  launched : List String
  /-- The calls that were made. -/
  calls : List Api.Call

/-- A session that has just begun. -/
def Session.openOn (store : TokenStore) : Session := ⟨store, .idle, false, [], []⟩

/-- The world outside: the time, a text that nobody can guess, what comes of opening a page as the
n-th one, and of making a call as the n-th one. -/
structure Outside where
  now : Int64
  nonce : String
  launch : Nat → String → SignIn.Launch
  reply : Nat → Api.Call → Api.Reply

end Soql
