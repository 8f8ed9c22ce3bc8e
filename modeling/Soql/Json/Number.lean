/-
# Numbers in JSON text

A number is read as a whole number when it has neither a fraction nor an exponent and
fits into 64 bits, with a sign when it is negative. Every other number is read as
binary floating point: its leading digits, as many as fit into 64 bits, are taken as a
whole number, which is then multiplied or divided by a power of ten, rounding after
each of these steps.

Key definitions: `Json.NumberText`, `Json.readNumber`, `Json.NumberText.value?`.
-/
import Soql.Json.Basic
import Soql.Text.Digit

namespace Soql.Json

open Text

/-- A number as it is written. The exponent has its sign and its digits. -/
structure NumberText where
  negative : Bool
  digits : List Char
  fraction : Option (List Char)
  exponent : Option (Bool × List Char)
deriving DecidableEq, Repr

def takeDigits (s : List Char) : List Char × List Char :=
  (s.takeWhile Char.isDigit, s.dropWhile Char.isDigit)

/-- The fraction that may follow, with at least one digit. -/
def readFraction : List Char → Option (Option (List Char) × List Char)
  | '.' :: s =>
    match takeDigits s with
    | ([], _) => none
    | (ds, r) => some (some ds, r)
  | s => some (none, s)

def readExponentDigits (negative : Bool) (s : List Char) :
    Option (Option (Bool × List Char) × List Char) :=
  match takeDigits s with
  | ([], _) => none
  | (ds, r) => some (some (negative, ds), r)

/-- The exponent that may follow, with at least one digit. -/
def readExponent : List Char → Option (Option (Bool × List Char) × List Char)
  | c :: s =>
    if c = 'e' || c = 'E' then
      match s with
      | '+' :: r => readExponentDigits false r
      | '-' :: r => readExponentDigits true r
      | r => readExponentDigits false r
    else some (none, c :: s)
  | [] => some (none, [])

/-- A number at the start of a text. A zero is the only digit that begins alone. -/
def readNumber (s : List Char) : Option (NumberText × List Char) :=
  let (negative, s) := match s with
    | '-' :: r => (true, r)
    | s => (false, s)
  match takeDigits s with
  | ([], _) => none
  | ('0' :: _ :: _, _) => none
  | (ds, s) =>
    match readFraction s with
    | none => none
    | some (fraction, s) =>
      match readExponent s with
      | none => none
      | some (exponent, s) => some (⟨negative, ds, fraction, exponent⟩, s)

/-- The whole number of the leading digits that fits into 64 bits when it is read on from
`n`, and the digits left over. -/
def gather (n : Nat) : List Char → Nat × List Char
  | [] => (n, [])
  | c :: s =>
    if 10 * n + digitValue c < UInt64.size then gather (10 * n + digitValue c) s else (n, c :: s)

/-- The number nearest to `10 ^ k`. -/
def powerOfTen (k : Nat) : Option Binary64 := Binary64.round? false (Nat.pow 10 k) 1

/-- Multiplies by `10 ^ k` in one step; divides in steps of at most `10 ^ 308`. -/
def scale (x : Binary64) (k : Int) : Option Binary64 :=
  if x.significand = 0 then some x
  else if 308 < k then none
  else if 0 ≤ k then do (← powerOfTen k.toNat) |> x.mul?
  else if -308 ≤ k then do x.div? (← powerOfTen (-k).toNat)
  else do
    let y ← x.div? (← powerOfTen 308)
    if y.significand = 0 then some y
    else if -616 ≤ k then y.div? (← powerOfTen (-k - 308).toNat)
    else some (Binary64.zero x.negative)

/-- The binary number nearest by steps to `± n * 10 ^ k`. -/
def toReal (negative : Bool) (n : Nat) (k : Int) : Option Binary64 := do
  let x ← Binary64.round? false n 1
  let y ← scale x k
  some { y with negative := negative }

/-- The value of a number; none when its size is beyond that of a binary number. -/
def NumberText.value? (t : NumberText) : Option Json :=
  let (n, rest) := gather 0 t.digits
  let places := match t.fraction with
    | none => (n, (rest.length : Int))
    | some ds =>
      let (n', rest') := gather n ds
      (n', (rest.length : Int) - ((ds.length : Int) - rest'.length))
  match t.exponent with
  | some (down, ds) =>
    let e := readDigits 0 ds
    if Int32.maxValue.toInt < e then
      if places.1 ≠ 0 && !down then none else some (.real (Binary64.zero t.negative))
    else
      (toReal t.negative places.1 (if down then places.2 - e else places.2 + e)).map .real
  | none =>
    if t.fraction.isSome || rest ≠ [] then (toReal t.negative places.1 places.2).map .real
    else if !t.negative then some (.int n)
    else if n = 0 || -(n : Int) < Int64.minValue.toInt then (toReal true n 0).map .real
    else some (.int (-n))

end Soql.Json
