/-
# Hosts

The host of an address is a domain name, an IPv4 address when its last label is a number,
or an IPv6 address between brackets. A name is read without case, with wide forms as
plain ones, and its labels in ASCII form must be written correctly. In an address of a
scheme of its own, any text without certain marks is a host.

Key definitions: `Host.Fault`, `Host.check`, `Host.checkOpaque`.
-/
import Soql.Text.Digit
import Soql.Text.Pieces
import Soql.Text.Visible
import Soql.Url.NameTable
import Soql.Url.Percent
import Soql.Url.Punycode

namespace Soql.Host

open Text

inductive Fault where
  | empty
  | badName
  | badIpv4
  | badIpv6
  | badMark
deriving DecidableEq, Repr

/-! ### IPv4 -/

/-- A number as it stands in an IPv4 address: decimal, octal after a zero, or hexadecimal after
`0x`. Nothing after these is zero. -/
def ipv4Number? (s : List Char) : Option Nat :=
  match s with
  | [] => none
  | '0' :: 'x' :: r | '0' :: 'X' :: r => readBase? 16 r
  | '0' :: c :: r => readBase? 8 (c :: r)
  | s => readBase? 10 s

/-- The labels of a name without the empty one at its end. -/
def withoutLastEmpty (labels : List (List Char)) : List (List Char) :=
  if labels.getLast? = some [] then labels.dropLast else labels

def endsInNumber (labels : List (List Char)) : Bool :=
  match (withoutLastEmpty labels).getLast? with
  | none => false
  | some l => (!l.isEmpty && l.all Char.isDigit) || (ipv4Number? l).isSome

/-- Up to four numbers, all but the last below 256, and the last below what is left of 32 bits. -/
def isIpv4 (labels : List (List Char)) : Bool :=
  match (withoutLastEmpty labels).mapM ipv4Number? with
  | none => false
  | some numbers =>
    match numbers.getLast? with
    | none => false
    | some last =>
      numbers.length ≤ 4 && last < 1 <<< (8 * (5 - numbers.length)) &&
        numbers.dropLast.all (· < 256)

/-! ### IPv6 -/

/-- A decimal number below 256 without a zero before it. -/
def isDecimalByte (s : List Char) : Bool :=
  match s with
  | [] => false
  | ['0'] => true
  | '0' :: _ => false
  | s => s.all Char.isDigit && s.length ≤ 3 &&
      readDigits 0 s < 256

/-- The rest of an IPv6 address after `seen` groups, `gap` telling whether two colons were
met; `fuel` bounds the number of its groups. The last two groups may be written as an
IPv4 address. -/
def ipv6Rest : Nat → (seen : Nat) → (gap : Bool) → List Char → Bool
  | _, seen, gap, [] => gap || seen = 8
  | 0, _, _, _ => false
  | fuel + 1, seen, gap, c :: s =>
    if seen = 8 then false
    else if c = ':' then !gap && ipv6Rest fuel (seen + 1) true s
    else
      let group := ((c :: s).take 4).takeWhile fun c => (hexValue? c).isSome
      match (c :: s).drop group.length with
      | [] => gap || seen + 1 = 8
      | '.' :: _ =>
        let bytes := pieces (· == '.') (c :: s)
        !group.isEmpty && seen ≤ 6 && bytes.length = 4 && bytes.all isDecimalByte &&
          (gap || seen + 2 = 8)
      | ':' :: r => !r.isEmpty && ipv6Rest fuel (seen + 1) gap r
      | _ => false

def isIpv6 (s : List Char) : Bool :=
  match s with
  | ':' :: ':' :: r => ipv6Rest s.length 1 true r
  | ':' :: _ => false
  | [] => false
  | [_] => false
  | s => ipv6Rest s.length 0 false s

/-- The text between brackets. -/
def checkBrackets (s : List Char) : Except Fault Unit :=
  if s.getLast? = some ']' && isIpv6 s.dropLast then .ok () else .error .badIpv6

/-! ### Names -/

/-- The ASCII characters that no name has. -/
def isForbidden (c : Char) : Bool :=
  c.toNat ≤ 32 || c.toNat = 127 || c ∈ ['%', '#', '/', ':', '<', '>', '?', '@', '[', '\\', ']',
    '^', '|']

/-- The characters of a label stand in it by right, and the first does not extend another. -/
def isPlainLabel (l : List Char) : Bool :=
  l.all (!DomainName.isRefused ·) &&
    match l with
    | [] => true
    | c :: _ => c.toNat < 128 || !inRanges extenderRanges c.toNat

/-- A label, decoded when it is in ASCII form. -/
def isLabel (l : List Char) : Bool :=
  match l with
  | 'x' :: 'n' :: '-' :: '-' :: r =>
    match Punycode.decode? r with
    | none => false
    | some d => d.any (128 ≤ ·.toNat) && isPlainLabel d
  | l => isPlainLabel l

/-- The host of an address with one of the common schemes. -/
def check (s : List Char) : Except Fault Unit :=
  match s with
  | '[' :: r => checkBrackets r
  | s =>
    let decoded := Utf8.decode (Percent.decodeBytes (Utf8.encode s))
    let name := (decoded.filter (!DomainName.isDropped ·)).map DomainName.plainForm
    let labels := pieces (· == '.') name
    if name.any isForbidden || !labels.all isLabel then .error .badName
    else if name.isEmpty then .error .empty
    else if endsInNumber labels && !isIpv4 labels then .error .badIpv4
    else .ok ()

/-- The marks that no host of another scheme has. -/
def isOpaqueForbidden (c : Char) : Bool :=
  c.toNat = 0 || c ∈ ['\t', '\n', '\r', ' ', '#', '/', ':', '<', '>', '?', '@', '[', '\\', ']',
    '^', '|']

/-- The host of an address with another scheme. -/
def checkOpaque (s : List Char) : Except Fault Unit :=
  match s with
  | '[' :: r => checkBrackets r
  | s => if s.any isOpaqueForbidden then .error .badMark else .ok ()

end Soql.Host
