/-
# Calls of the query endpoint

A call is a request for one address with a token. It is answered with a status, a line
about it and a body, or not at all.

Key definitions: `Api.Call`, `Api.Reply`, `Api.isSuccess`, `Api.queryUrl`.
-/
import Soql.Url.Percent

namespace Soql.Api

structure Call where
  url : String
  bearer : String
deriving DecidableEq, Repr

/-- Why a call was not answered. -/
inductive TransportError where
  | timeout
  | unavailable (text : String)
  | failed (text : String)
deriving DecidableEq, Repr

def TransportError.message : TransportError → String
  | .timeout => "Request timeout"
  | .unavailable text => "Host unavailable: " ++ text
  | .failed text => "Request failed: " ++ text

/-- An answer to a call. -/
structure Response where
  status : Nat
  statusText : String
  body : String
deriving DecidableEq, Repr

abbrev Reply := Except TransportError Response

/-- The statuses from 200 on that tell of success. -/
def isSuccess (status : Nat) : Bool := 200 ≤ status && status < 300

def defaultVersion : String := "v57.0"

/-- The address that answers a query. -/
def queryUrl (version instanceUrl query : String) : String :=
  withoutTrailingSlashes instanceUrl ++ "/services/data/" ++ version ++ "/query?q=" ++
    Percent.encode query

end Soql.Api
