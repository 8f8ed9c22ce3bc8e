/-
# The token store

The current token, held in memory and kept under three keys of a backend. The backend is
written first, and the token in memory changes only when that succeeded.

An instance may be known without a token; when none is, the default instance stands in.

What depends on the age of the token is asked for by `TokenStore.getValid` and
`TokenStore.tellStatus`. They panic when the age does not fit, and else give what
`TokenStore.fresh?` and `TokenStore.status` say.

Key definitions: `TokenStore`, `TokenStore.openOn`, `TokenStore.fresh?`, `TokenStore.getValid`,
`TokenStore.put`, `TokenStore.clear`, `TokenStore.instanceUrl`, `TokenStore.setInstanceUrl`,
`TokenStore.status`, `TokenStore.tellStatus`.
-/
import Soql.Store.Backend
import Soql.Store.Token

namespace Soql

structure TokenStore where
  backend : Backend
  token : Option Token
  defaultInstance : String

namespace TokenStore

def accessKey : String := "access_token"

def issuedAtKey : String := "token_issued_at"

def instanceKey : String := "instance_url"

/-- The instance of those who name none. -/
def commonInstance : String := "https://na1.salesforce.com"

/-- The instance that the backend holds, or the default. -/
def loadInstance (b : Backend) (defaultInstance : String) : Except StoreError String := do
  match ← b.get instanceKey with
  | some (.str url) => return if url.isEmpty then defaultInstance else url
  | _ => return defaultInstance

/-- The token that the backend holds. One without a time was issued at the beginning of time. -/
def loadToken (b : Backend) (defaultInstance : String) : Except StoreError (Option Token) := do
  match ← b.get accessKey with
  | some (.str access) =>
    if access.isEmpty then return none
    let issuedAt := ((← b.get issuedAtKey).bind Json.int64?).getD 0
    return some ⟨access, issuedAt, ← loadInstance b defaultInstance⟩
  | _ => return none

def openOn (b : Backend) (defaultInstance : String) : Except StoreError TokenStore := do
  return ⟨b, ← loadToken b defaultInstance, defaultInstance⟩

/-- Opened again on what the backend holds now. -/
def reopen (s : TokenStore) : Except StoreError TokenStore := do
  openOn (← s.backend.reopen) s.defaultInstance

/-- With other refusals of the system from now on. -/
def refusing (refuses : Nat → Option SystemError) (s : TokenStore) : TokenStore :=
  { s with backend := s.backend.refusing refuses }

/-- The path and the text of the state file, if there is one. -/
def document? (s : TokenStore) : Option (String × String) := s.backend.document?

/-- The token, unless it is stale. -/
def fresh? (s : TokenStore) (now : Int64) : Option Token := s.token.filter (!·.isStale now)

/-- Works out the age of the token, if there is one. -/
def checkAge (s : TokenStore) (now : Int64) : Except Panic Unit :=
  match s.token with
  | some t => discard (t.age now)
  | none => return ()

def getValid (s : TokenStore) (now : Int64) : Except Panic (Option Token) := do
  s.checkAge now
  return s.fresh? now

/-- The entries of a token. -/
def entriesOf (t : Token) : Named Json :=
  [(accessKey, .str t.access), (issuedAtKey, .int t.issuedAt.toInt),
    (instanceKey, .str t.instanceUrl)]

/-- Writes to the backend, and then changes the token in memory. -/
def write (change : Backend → Except StoreError Unit × Backend)
    (then_ : Option Token → Option Token) (s : TokenStore) : Except StoreError Unit × TokenStore :=
  match change s.backend with
  | (.ok (), backend) => (.ok (), { s with backend, token := then_ s.token })
  | (.error e, backend) => (.error e, { s with backend })

def put (t : Token) : TokenStore → Except StoreError Unit × TokenStore :=
  write (Backend.setMany (entriesOf t)) fun _ => some t

/-- Forgets the token; its instance stays known. -/
def clear : TokenStore → Except StoreError Unit × TokenStore :=
  write (Backend.removeMany [accessKey, issuedAtKey]) fun _ => none

/-- The instance of the token, or the one that is known without a token. -/
def instanceUrl (s : TokenStore) : Except StoreError String :=
  match s.token with
  | some t => .ok t.instanceUrl
  | none => loadInstance s.backend s.defaultInstance

def setInstanceUrl (url : String) : TokenStore → Except StoreError Unit × TokenStore :=
  write (Backend.setMany [(instanceKey, .str url)])
    fun token => token.map fun t => { t with instanceUrl := url }

/-- What is known at a time. -/
structure Status where
  authenticated : Bool
  stale : Bool
  issuedAt : Option Int64
  age : Option Int64
  instanceUrl : String
deriving DecidableEq, Repr

def statusOf (token : Option Token) (instanceUrl : String) (now : Int64) : Status :=
  match token with
  | some t => ⟨true, t.isStale now, some t.issuedAt, (t.age now).toOption, instanceUrl⟩
  | none => ⟨false, false, none, none, instanceUrl⟩

def status (s : TokenStore) (now : Int64) : Except StoreError Status := do
  return statusOf s.token (← s.instanceUrl) now

def tellStatus (s : TokenStore) (now : Int64) : Except Panic (Except StoreError Status) := do
  s.checkAge now
  return s.status now

def Status.toJson (s : Status) : Json :=
  let number : Option Int64 → Json
    | some n => .int n.toInt
    | none => .null
  .obj [("authenticated", .bool s.authenticated), ("stale", .bool s.stale),
    ("issued_at", number s.issuedAt), ("age_ms", number s.age),
    ("instance_url", .str s.instanceUrl)]

end TokenStore

end Soql
