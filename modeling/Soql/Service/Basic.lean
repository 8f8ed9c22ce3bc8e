/-
# The service

Requests come one on a line. Every line that is not blank is answered by one response,
before the next line is looked at. Bytes that are no text end the service.

Key definitions: `Service`, `Service.handle`, `Service.handleLine`, `Service.serve`.
-/
import Soql.Service.Request
import Soql.Service.Response

namespace Soql

structure Service where
  signIn : SignIn.Settings
  executor : Api.Executor
deriving DecidableEq, Repr

namespace Service

/-- The response to a result. -/
def respond {ε α : Type} (fail : ε → Failure) (data : α → Json) : Except ε α → Response
  | .ok a => .success (data a)
  | .error e => .failure (fail e)

/-- What is told of a new token. -/
def tokenData (t : Token) : Json :=
  .obj [("instance_url", .str t.instanceUrl), ("issued_at", .int t.issuedAt.toInt)]

def handle (v : Service) : Request → Work Response
  | .signIn => return respond .signIn tokenData (← SignIn.authorize v.signIn)
  | .query text => return respond .execute id (← v.executor.execute text)
  | .compile q => return .success (.str q.compile)
  | .status => do
    let now ← Work.now
    return respond .store (fun s => s.toJson.tidy) (← Work.status now)

def handleLine (v : Service) (line : String) : Work Response :=
  match Request.read line with
  | .ok request => v.handle request
  | .error e => return .failure (.badRequest e)

/-! ### Lines of bytes -/

def lineFeed : UInt8 := 10

/-- The lines of a stream, each with its line feed; the last one may have none. -/
def cutLines : List UInt8 → List (List UInt8)
  | [] => []
  | b :: bs =>
    if b = lineFeed then [b] :: cutLines bs
    else
      match cutLines bs with
      | [] => [[b]]
      | line :: rest => (b :: line) :: rest

/-- The line without its line feed and a carriage return before that. -/
def withoutLineEnd (s : List Char) : List Char :=
  match s.reverse with
  | '\n' :: '\r' :: r => r.reverse
  | '\n' :: r => r.reverse
  | _ => s

/-- The text of a line, if its bytes have one. -/
def lineText? (line : List UInt8) : Option String :=
  (Utf8.decode? line).map fun s => String.ofList (withoutLineEnd s)

/-- The responses to lines, and whether all lines were texts. -/
def serveLines (v : Service) : List (List UInt8) → Work (List Response × Bool)
  | [] => return ([], true)
  | line :: rest =>
    match lineText? line with
    | none => return ([], false)
    | some text =>
      if isBlankString text then serveLines v rest
      else do
        let r ← v.handleLine text
        let (rs, whole) ← serveLines v rest
        return (r :: rs, whole)

/-- The responses to a stream of bytes, and whether it was read to its end. -/
def serve (v : Service) (input : List UInt8) : Work (List Response × Bool) :=
  v.serveLines (cutLines input)

end Service

end Soql
