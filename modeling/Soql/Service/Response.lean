/-
# Responses of the service

A response tells of success and holds the data that was asked for, or of a failure by its
code and its message. It is written as one line of JSON.

Key definitions: `Response`, `Failure`, `Response.toJson`, `Response.line`.
-/
import Soql.Api.Execute

namespace Soql

/-- Why a request was not fulfilled. -/
inductive Failure where
  | badRequest (e : Json.ReadError)
  | signIn (e : SignInError)
  | store (e : StoreError)
  | execute (e : ExecuteError)
deriving Repr

def Failure.code : Failure → String
  | .badRequest _ => "invalid_request"
  | .signIn _ => "auth"
  | .store _ => "store"
  | .execute e => e.code

def Failure.message : Failure → String
  | .badRequest e => e.message
  | .signIn e => e.message
  | .store e => e.message
  | .execute e => e.message

inductive Response where
  | success (data : Json)
  | failure (f : Failure)
deriving Repr

namespace Response

def toJson : Response → Json
  | .success data => .obj [("success", .bool true), ("data", data)]
  | .failure f =>
    .obj [("success", .bool false), ("error", .str f.message), ("code", .str f.code)]

def line (r : Response) : String := r.toJson.compact

end Response

end Soql
