/-
# Requests to the service

A request is a JSON object whose field `type` names its kind, next to the fields of that
kind; or a list that begins with the kind. The kind is looked at when it is met, and the
fields of a request are looked at once the whole object or list was read.

Key definitions: `Request`, `Request.Kind`, `Request.read`.
-/
import Soql.Json.Fields
import Soql.Query.Wire

namespace Soql

inductive Request where
  | signIn
  | query (text : String)
  | compile (q : Query)
  | status
deriving DecidableEq, Repr

namespace Request

open Json

inductive Kind where
  | signIn
  | query
  | compile
  | status
deriving DecidableEq, Repr

def Kind.names : List (String × Kind) :=
  [("SF_AUTH", .signIn), ("SF_QUERY", .query), ("SF_COMPILE", .compile), ("SF_STATUS", .status)]

def readKind (s : List Char) : Except ReadError (Kind × List Char) :=
  match skipGaps s with
  | '[' :: _ => .error (.mismatch (.wrongType (.arr []) "variant identifier"))
  | '\x7b' :: _ => .error (.mismatch (.wrongType (.obj []) "variant identifier"))
  | s => do
    let (v, s) ← orFault (nested s)
    match v with
    | .str name => return (← orMismatch (choose Kind.names name), s)
    | v => throw (.mismatch (.wrongType v "variant identifier"))

/-- The fields of a request that were read, the kind apart. -/
structure Draft where
  kind : Option Kind
  members : List (String × Json)

def readField (d : Draft) (s : List Char) : Except ReadError (Draft × List Char) := do
  let (name, s) ← orFault (readName .whole s.length s)
  if name = "type" then
    if d.kind.isSome then throw (.mismatch (.duplicateField name))
    let (kind, s) ← readKind s
    return ({ d with kind := some kind }, s)
  else
    let (v, s) ← orFault (nested s)
    return ({ d with members := d.members ++ [(name, v)] }, s)

/-- A record with one field that may not be missing. -/
def soleMember {α : Type} (name : String) (read : Json → Except Mismatch α)
    (ms : List (String × Json)) : Except Mismatch α := do
  checkMembers [(name, checks read)] [] ms
  member name read (.error (.missingField name)) ms

def ofMembers (ms : List (String × Json)) : Kind → Except Mismatch Request
  | .signIn => .ok .signIn
  | .query => query <$> soleMember "query" asString ms
  | .compile => compile <$> soleMember "spec" (Query.ofJson .kept) ms
  | .status => .ok .status

/-- The same, from a list. -/
def soleItem {α : Type} (wanted : String) (read : Json → Except Mismatch α)
    (vs : List Json) : Except Mismatch α := do
  let x ← item 0 read (.error (.wrongLength 0 wanted)) vs
  noSurplus .kept 1 vs
  return x

def ofItems (vs : List Json) : Kind → Except Mismatch Request
  | .signIn => do
    noSurplus .kept 0 vs
    return .signIn
  | .query => query <$> soleItem "struct variant Request::Query with 1 element" asString vs
  | .compile =>
    compile <$> soleItem "struct variant Request::Compile with 1 element" (Query.ofJson .kept) vs
  | .status => do
    noSurplus .kept 0 vs
    return .status

def readObject (s : List Char) : Except ReadError (Request × List Char) := do
  let (d, s) ← readFields readField ⟨none, []⟩ s
  match d.kind with
  | none => throw (.mismatch (.missingField "type"))
  | some kind => return (← orMismatch (ofMembers d.members kind), s)

def readList (s : List Char) : Except ReadError (Request × List Char) := do
  match skipGaps s with
  | ']' :: _ => throw (.mismatch (.missingField "type"))
  | s => do
    let (kind, s) ← readKind s
    let (vs, s) ← match skipGaps s with
      | ']' :: s => pure ([], s)
      | ',' :: s => orFault (readItems nested s.length s)
      | s => throw (.fault (faultAt s))
    return (← orMismatch (ofItems vs kind), s)

/-- The request that a line writes. -/
def read (line : String) : Except ReadError Request := do
  let (request, s) ← match skipGaps line.toList with
    | '\x7b' :: s => readObject s
    | '[' :: s => readList s
    | s => do
      let (v, _) ← orFault (readValue s)
      throw (.mismatch (.wrongType v "internally tagged enum Request"))
  orFault (expectEnd s)
  return request

end Request

end Soql
