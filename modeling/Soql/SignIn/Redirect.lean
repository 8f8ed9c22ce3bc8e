/-
# The answer in a redirect

The fragment of the redirect address is form data, in which the first value of a name
counts. It tells of an error, or brings back the text that was sent along and grants a
token, with or without the instance that the token is good for.

Key definitions: `SignIn.Grant`, `SignIn.Grant.ofPairs`, `SignIn.Grant.ofRedirect`.
-/
import Soql.SignIn.Basic
import Soql.Text.Blank
import Soql.Url.FormData

namespace Soql.SignIn

/-- A token that was granted. -/
structure Grant where
  token : String
  instanceUrl : Option String
deriving DecidableEq, Repr

namespace Grant

/-- The first value of a name, if it is not empty. -/
def filled? (name : String) (pairs : Named String) : Option String :=
  (pairs.get? name).filter (!·.isEmpty)

/-- What the pairs of an answer say. An error goes before a wrong text, and that before a
missing token; an answer without the text is taken on trust. -/
def ofPairs (nonce : String) (pairs : Named String) : Except SignInError Grant :=
  match pairs.get? "error" with
  | some error => .error (.denied error (pairs.get? "error_description"))
  | none =>
    if (pairs.get? "state").any (· != nonce) then .error .wrongNonce
    else
      match filled? "access_token" pairs with
      | none => .error .missingToken
      | some token =>
        .ok ⟨token, (filled? "instance_url" pairs).map withoutTrailingSlashes⟩

/-- What a redirect address says. -/
def ofRedirect (nonce url : String) : Except SignInError Grant :=
  match Url.readFragment (Text.trim url.toList) with
  | .error fault => .error (.badRedirect fault)
  | .ok fragment => ofPairs nonce (FormData.parse fragment)

end Grant

end Soql.SignIn
