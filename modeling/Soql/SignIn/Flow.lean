/-
# The steps of signing in

Only one at a time signs in. Who comes while another is at it waits, and those who want no
more than a token take the one that the other got.

Key definitions: `SignIn.exchange`, `SignIn.authorize`, `SignIn.ensureToken`.
-/
import Soql.Session.Work
import Soql.SignIn.Redirect

namespace Soql.SignIn

/-- The instance of a grant, or the one that is known already. -/
def instanceOf (g : Grant) : Work (Except StoreError String) :=
  match g.instanceUrl with
  | some url => return .ok url
  | none => return (← Work.getStore).instanceUrl

/-- Stores the token that a redirect grants. -/
def accept (nonce url : String) : Work (Except SignInError Token) :=
  match Grant.ofRedirect nonce url with
  | .error e => return .error e
  | .ok g => do
    match ← instanceOf g with
    | .error e => return .error (.store e)
    | .ok instanceUrl =>
      let token : Token := ⟨g.token, ← Work.now, instanceUrl⟩
      match ← Work.write (TokenStore.put token) with
      | .error e => return .error (.store e)
      | .ok () => return .ok token

/-- Opens the page and takes the answer. -/
def exchange (o : Settings) : Work (Except SignInError Token) :=
  if isBlankString o.clientId then return .error .missingClientId
  else
    .nonce fun nonce => .enter .awaitingUser <| .launch (o.pageUrl nonce) fun
      | .cancelled => return .error .cancelled
      | .failed text => return .error (.launch text)
      | .redirected url => .enter .exchanging (accept nonce url)

/-- The phase at the end. -/
def phaseAfter : Except SignInError Token → Phase
  | .ok _ => .succeeded
  | .error _ => .failed

/-- Signs in, with the phase at the end as the result says. -/
def flow (o : Settings) : Work (Except SignInError Token) := do
  let r ← exchange o
  .enter (phaseAfter r) (return r)

/-- Work that keeps the others from signing in. -/
def alone {α : Type} (t : Work α) : Work α := .acquire do
  let r ← t
  .release (return r)

/-- Signs in, whatever token there is. -/
def authorize (o : Settings) : Work (Except SignInError Token) := alone (flow o)

/-- The token that there is, or a new one when that is stale. -/
def ensureToken (o : Settings) : Work (Except SignInError Token) := alone do
  let now ← Work.now
  match (← Work.getStoreAt now).fresh? now with
  | some token => return .ok token
  | none => flow o

end Soql.SignIn
