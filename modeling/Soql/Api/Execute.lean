/-
# Executing queries

A query is sent with a token that is not stale. When there is none, one is got by signing
in first, if that is wanted. Nothing is sent twice.

Key definitions: `Api.Executor`, `ExecuteError`, `Api.Executor.execute`.
-/
import Soql.Json.Reader
import Soql.SignIn.Flow

namespace Soql

/-- Why a query has no answer. -/
inductive ExecuteError where
  | signIn (e : SignInError)
  | tokenUnavailable
  | rejected (status : Nat) (statusText : String)
  | transport (e : Api.TransportError)
  | badBody (fault : Json.Fault)
deriving Repr

namespace ExecuteError

/-- The name under which an error is reported. -/
def code : ExecuteError → String
  | .signIn _ => "auth"
  | .tokenUnavailable => "token_unavailable"
  | .rejected _ _ => "api"
  | .transport _ => "transport"
  | .badBody _ => "decode"

def message : ExecuteError → String
  | .signIn e => e.message
  | .tokenUnavailable => "No valid access token"
  | .rejected _ statusText => "Salesforce API error: " ++ statusText
  | .transport e => "Transport error: " ++ e.message
  | .badBody fault => "Invalid response body: " ++ fault.message

end ExecuteError

namespace Api

/-- How queries are sent. -/
structure Executor where
  version : String
  /-- How to sign in, if there is a way. -/
  signIn : Option SignIn.Settings
  /-- Whether to sign in when a token is needed. -/
  auto : Bool
deriving DecidableEq, Repr

/-- The data in a reply; an empty body holds nothing. -/
def decode : Reply → Except ExecuteError Json
  | .error e => .error (.transport e)
  | .ok r =>
    if !isSuccess r.status then .error (.rejected r.status r.statusText)
    else if isBlankString r.body then .ok .null
    else
      match Json.parse r.body with
      | .ok v => .ok v.tidy
      | .error fault => .error (.badBody fault)

namespace Executor

def default (signIn : SignIn.Settings) : Executor := ⟨defaultVersion, some signIn, true⟩

/-- The call that asks a query. -/
def callOf (x : Executor) (token : Token) (query : String) : Call :=
  ⟨queryUrl x.version token.instanceUrl query, token.access⟩

/-- A token that is not stale. -/
def validToken (x : Executor) : Work (Except ExecuteError Token) := do
  let now ← Work.now
  match (← Work.getStoreAt now).fresh? now with
  | some token => return .ok token
  | none =>
    match x.signIn, x.auto with
    | some o, true => return (← SignIn.ensureToken o).mapError .signIn
    | _, _ => return .error .tokenUnavailable

/-- Sends a query and reads the answer. -/
def execute (x : Executor) (query : String) : Work (Except ExecuteError Json) := do
  match ← x.validToken with
  | .error e => return .error e
  | .ok token => .send (x.callOf token query) fun reply => return decode reply

end Executor

end Api

end Soql
