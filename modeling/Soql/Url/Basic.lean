/-
# Addresses

An absolute address is a scheme, a colon and a rest in which the first number sign begins
the fragment. With one of the common schemes, or two slashes, the rest names a host, with
a user before it and a port after it; then these must be well formed. Blanks and controls
around an address are no part of it, and tabs and line ends inside it are passed over.

Key definitions: `Url.Fault`, `Url.Fault.message`, `Url.readFragment`.
-/
import Soql.Url.Host

namespace Soql.Url

/-- Why a text is no address. -/
inductive Fault where
  | relative
  | badPort
  | host (fault : Host.Fault)
deriving DecidableEq, Repr

def Fault.message : Fault → String
  | .relative => "relative URL without a base"
  | .badPort => "invalid port number"
  | .host .empty => "empty host"
  | .host .badName => "invalid international domain name"
  | .host .badIpv4 => "invalid IPv4 address"
  | .host .badIpv6 => "invalid IPv6 address"
  | .host .badMark => "invalid domain character"

/-- The text without controls and blanks around it and without tabs and line ends. -/
def clean (s : List Char) : List Char :=
  let trimmed := s.dropWhile (·.toNat ≤ 32)
  ((trimmed.reverse.dropWhile (·.toNat ≤ 32)).reverse).filter
    fun c => !(c = '\t' || c = '\n' || c = '\r')

def isSchemeChar (c : Char) : Bool := c.isAlphanum || c = '+' || c = '-' || c = '.'

/-- The scheme in small letters, and the text after its colon. -/
def readScheme? (s : List Char) : Option (String × List Char) :=
  match s with
  | [] => none
  | c :: _ =>
    if c.isAlpha then
      match s.dropWhile isSchemeChar with
      | ':' :: r => some (String.ofList ((s.takeWhile isSchemeChar).map Char.toLower), r)
      | _ => none
    else none

/-- The three kinds of schemes. -/
inductive Kind where
  | common
  | file
  | other
deriving DecidableEq, Repr

def Kind.of (scheme : String) : Kind :=
  if scheme = "file" then .file
  else if scheme ∈ ["http", "https", "ws", "wss", "ftp"] then .common
  else .other

/-- Whether a character ends the part of an address that names a host. -/
def endsAuthority (kind : Kind) (c : Char) : Bool :=
  c = '/' || c = '?' || c = '#' || (kind != .other && c = '\\')

/-- The host up to a colon outside brackets, and the text from there on. -/
def cutHost : (inside : Bool) → List Char → List Char × List Char
  | _, [] => ([], [])
  | inside, c :: s =>
    if c = ':' && !inside then ([], c :: s)
    else
      let (host, r) := cutHost (if c = '[' then true else if c = ']' then false else inside) s
      (c :: host, r)

/-- The port after a colon: a number of 16 bits, or nothing. -/
def isPort (s : List Char) : Bool :=
  s.all Char.isDigit && Text.readDigits 0 s < UInt16.size

/-- The user before the last at sign, and the text after it. -/
def cutUser (s : List Char) : Option (List Char) × List Char :=
  if '@' ∈ s then
    let rest := (s.reverse.takeWhile (· != '@')).reverse
    (some (s.take (s.length - rest.length - 1)), rest)
  else (none, s)

/-- A user, a host and a port, when the text after two slashes names them. -/
def checkAuthority (kind : Kind) (s : List Char) : Except Fault Unit := do
  let authority := s.takeWhile (!endsAuthority kind ·)
  let ended := authority.length < s.length
  let (user, r) := cutUser authority
  if user = some [] && r.isEmpty && ended then throw (.host .empty)
  let (host, r) := cutHost false r
  if kind = .common then
    if host.isEmpty then throw (.host .empty)
    (Host.check host).mapError .host
  else (Host.checkOpaque host).mapError .host
  match r with
  | [] => pure ()
  | _ :: port => do
    if host.isEmpty then throw (.host .empty)
    -- a backslash ends the port also where it does not end the host
    if !isPort (port.takeWhile (· != '\\')) then throw .badPort
  if host.isEmpty && user.any (fun u => !u.isEmpty && u != [':']) then throw (.host .empty)

def isSlash (c : Char) : Bool := c = '/' || c = '\\'

/-- A letter and a colon or a bar in the place of a host are the start of a path. -/
def isDrive (s : List Char) : Bool :=
  match s with
  | [c, d] => c.isAlpha && (d = ':' || d = '|')
  | _ => false

/-- The host that two slashes of either kind may begin in an address of a file. -/
def checkFile (s : List Char) : Except Fault Unit :=
  match s with
  | a :: b :: r =>
    let host := r.takeWhile fun c => !(isSlash c || c = '?' || c = '#')
    if isSlash a && isSlash b && !host.isEmpty && !isDrive host then
      (Host.check host).mapError .host
    else .ok ()
  | _ => .ok ()

def checkRest (kind : Kind) (s : List Char) : Except Fault Unit :=
  match kind with
  | .common => checkAuthority .common (s.dropWhile isSlash)
  | .file => checkFile s
  | .other =>
    match s with
    | '/' :: '/' :: r => checkAuthority .other r
    | _ => .ok ()

/-- The text after the first number sign of an address; nothing when it has none. -/
def readFragment (s : List Char) : Except Fault (List Char) :=
  match readScheme? (clean s) with
  | none => .error .relative
  | some (scheme, rest) => do
    checkRest (Kind.of scheme) rest
    return (rest.dropWhile (· != '#')).drop 1

end Soql.Url
