/-
# Percent encoding

Texts inside an address are written with the ASCII letters, the digits and four marks as
they are, and every other byte of their UTF-8 form as a percent sign and two hexadecimal
digits. Reading replaces each percent sign with two digits after it, and leaves a percent
sign that has none.

Key definitions: `Percent.isUnreserved`, `Percent.encode`, `Percent.decodeBytes`,
`withoutTrailingSlashes`.
-/
import Soql.Text.Utf8

namespace Soql.Percent

/-- The bytes that stand for themselves. -/
def isUnreserved (b : UInt8) : Bool :=
  (48 ≤ b && b ≤ 57) || (65 ≤ b && b ≤ 90) || (97 ≤ b && b ≤ 122) ||
    b == 45 || b == 46 || b == 95 || b == 126

/-- A digit from zero to fifteen, in capitals. -/
def hexDigit (n : Nat) : Char := if n < 10 then Char.ofNat (48 + n) else Char.ofNat (55 + n)

def encodeByte (b : UInt8) : List Char :=
  if isUnreserved b then [Char.ofNat b.toNat]
  else ['%', hexDigit (b.toNat / 16), hexDigit (b.toNat % 16)]

def encodeBytes (bytes : List UInt8) : List Char := bytes.flatMap encodeByte

def encode (s : String) : String := String.ofList (encodeBytes (Utf8.encode s.toList))

/-- The value of a byte that is a hexadecimal digit. -/
def hexValue? (b : UInt8) : Option UInt8 :=
  if 48 ≤ b ∧ b ≤ 57 then some (b - 48)
  else if 65 ≤ b ∧ b ≤ 70 then some (b - 55)
  else if 97 ≤ b ∧ b ≤ 102 then some (b - 87)
  else none

/-- The byte that two hexadecimal digits write. -/
def pair? (high low : UInt8) : Option UInt8 :=
  match hexValue? high, hexValue? low with
  | some h, some l => some (16 * h + l)
  | _, _ => none

def decodeBytes : List UInt8 → List UInt8
  | 37 :: h :: l :: bs =>
    match pair? h l with
    | some b => b :: decodeBytes bs
    | none => 37 :: decodeBytes (h :: l :: bs)
  | b :: bs => b :: decodeBytes bs
  | [] => []

end Soql.Percent

namespace Soql

def trimSlashes (s : List Char) : List Char := (s.reverse.dropWhile (· == '/')).reverse

/-- The address without the slashes at its end. -/
def withoutTrailingSlashes (s : String) : String := String.ofList (trimSlashes s.toList)

end Soql
