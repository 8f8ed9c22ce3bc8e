/-
# Signing in

To sign in, the user opens a page of the login server. When all went well the server sends
the browser on to the redirect address, with the token in the fragment. The fragment
reaches no server, so the user brings the address back (`Launch`).

A text that nobody can guess goes along with the request and has to come back with the
answer.

Key definitions: `SignIn.Settings`, `SignIn.Settings.pageUrl`, `SignIn.Launch`,
`SignIn.Phase`, `SignInError`, `SignInError.message`.
-/
import Soql.Store.Error
import Soql.Url.Basic
import Soql.Url.Percent

namespace Soql

namespace SignIn

/-- What the login server knows the application by, and what is asked of it. -/
structure Settings where
  loginUrl : String
  clientId : String
  redirectUri : String
  scope : String
deriving DecidableEq, Repr

namespace Settings

def default : Settings where
  loginUrl := "https://login.salesforce.com"
  clientId := ""
  redirectUri := "https://login.salesforce.com/services/oauth2/success"
  scope := "api web refresh_token"

/-- The page to open, for a text `nonce` that has to come back. -/
def pageUrl (o : Settings) (nonce : String) : String :=
  withoutTrailingSlashes o.loginUrl ++ "/services/oauth2/authorize?" ++
    "client_id=" ++ Percent.encode o.clientId ++
    "&redirect_uri=" ++ Percent.encode o.redirectUri ++
    "&response_type=token" ++
    "&scope=" ++ Percent.encode o.scope ++
    "&state=" ++ Percent.encode nonce

end Settings

/-- What comes of opening the page. -/
inductive Launch where
  | redirected (url : String)
  | cancelled
  | failed (text : String)
deriving DecidableEq, Repr

/-- How far signing in has come. -/
inductive Phase where
  | idle
  | awaitingUser
  | exchanging
  | succeeded
  | failed
deriving DecidableEq, Repr

end SignIn

/-- Why signing in did not succeed. -/
inductive SignInError where
  | missingClientId
  | cancelled
  | denied (error : String) (description : Option String)
  | missingToken
  | wrongNonce
  | badRedirect (fault : Url.Fault)
  | launch (text : String)
  | store (e : StoreError)
deriving Repr

def SignInError.message : SignInError → String
  | .missingClientId => "OAuth client id is not configured"
  | .cancelled => "Authorization cancelled by user"
  | .denied error none => "Authorization denied: " ++ error
  | .denied error (some description) =>
    "Authorization denied: " ++ error ++ " (" ++ description ++ ")"
  | .missingToken => "No access token in authorization response"
  | .wrongNonce => "Authorization response state does not match the request"
  | .badRedirect fault =>
    "Authorization interaction failed: Invalid redirect URL: " ++ fault.message
  | .launch text => "Authorization interaction failed: " ++ text
  | .store e => "Token store error: " ++ e.message

end Soql
