/-
# Access tokens

An access token with the time when it was issued and the instance that it is good for.
Times are in milliseconds since 1970, in 64 bits with a sign. The age of a token is a difference of
two of them, and the program panics when 64 bits do not hold it.

Key definitions: `Panic`, `Token`, `Token.age`, `Token.staleness`, `Token.isStale`,
`Token.lifetime`.
-/

namespace Soql

/-- What ends the program at once, without a result. -/
inductive Panic where
  /-- A difference that its type does not hold. -/
  | overflow
deriving DecidableEq, Repr

def Panic.message : Panic → String
  | overflow => "attempt to subtract with overflow"

structure Token where
  access : String
  issuedAt : Int64
  instanceUrl : String
deriving DecidableEq, Repr

namespace Token

/-- Two hours. -/
def lifetime : Int64 := 7200000

def age (t : Token) (now : Int64) : Except Panic Int64 :=
  if now.toBitVec.ssubOverflow t.issuedAt.toBitVec then .error .overflow
  else .ok (now - t.issuedAt)

/-- A token is stale when it is older than its lifetime. -/
def staleness (t : Token) (now : Int64) : Except Panic Bool := return lifetime < (← t.age now)

/-- Whether the token is stale, for those who did not panic when they asked for its age. Where they
do panic, it counts as stale. -/
def isStale (t : Token) (now : Int64) : Bool :=
  match t.staleness now with
  | .ok stale => stale
  | .error _ => true

end Token

end Soql
