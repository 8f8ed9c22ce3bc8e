/-
# Numbers and dates in TOML text

Whole numbers have a sign and fit into 64 bits; they are written in decimal digits, or
without a sign in hexadecimal, octal or binary ones. An underscore may stand between two
digits. Dates and times are checked for their ranges.

Key definitions: `Toml.readNumber`, `Toml.readInteger`, `Toml.readReal`, `Toml.readDate`.
-/
import Soql.Number.Binary64
import Soql.Toml.Basic
import Soql.Toml.Text

namespace Soql.Toml

open Text

/-! ### Digits -/

/-- More digits, with single underscores between them. -/
def moreDigits (p : Char → Bool) : List Char → Option (List Char × List Char)
  | [] => some ([], [])
  | '_' :: s =>
    match s with
    | [] => none
    | c :: s =>
      if p c then do
        let (ds, s) ← moreDigits p s
        some (c :: ds, s)
      else none
  | c :: s =>
    if p c then do
      let (ds, s) ← moreDigits p s
      some (c :: ds, s)
    else some ([], c :: s)

/-- One or more digits of a class. -/
def digits (p : Char → Bool) : List Char → Option (List Char × List Char)
  | c :: s => if p c then moreDigits p (c :: s) else none
  | [] => none

/-- The digits of a whole number: a zero begins no other number. -/
def decimal : List Char → Option (List Char × List Char)
  | '0' :: s => some (['0'], s)
  | s => digits Char.isDigit s

def readSign : List Char → Bool × List Char
  | '+' :: s => (false, s)
  | '-' :: s => (true, s)
  | s => (false, s)

/-! ### Whole numbers -/

def isHexDigit (c : Char) : Bool := (hexValue? c).isSome

def isOctalDigit (c : Char) : Bool := '0' ≤ c && c ≤ '7'

def isBinaryDigit (c : Char) : Bool := c = '0' || c = '1'

/-- A number to a base, without a sign. -/
def readBased (base : Nat) (p : Char → Bool) (s : List Char) : Option (Toml × List Char) := do
  let (ds, s) ← digits p s
  let n ← readBase? base ds
  if n ≤ Int64.maxValue.toInt then some (.int n, s) else none

def readInteger : List Char → Option (Toml × List Char)
  | '0' :: 'x' :: s => readBased 16 isHexDigit s
  | '0' :: 'o' :: s => readBased 8 isOctalDigit s
  | '0' :: 'b' :: s => readBased 2 isBinaryDigit s
  | s => do
    let (negative, s) := readSign s
    let (ds, s) ← decimal s
    let n : Int := readDigits 0 ds
    let n := if negative then -n else n
    if Int64.minValue.toInt ≤ n ∧ n ≤ Int64.maxValue.toInt then some (.int n, s) else none

/-! ### Numbers with a fraction or an exponent -/

/-- A number as it is written: whole digits, digits of a fraction, and an exponent. -/
structure RealText where
  negative : Bool
  whole : List Char
  fraction : List Char
  exponent : Int

/-- Whether a number is beyond all binary numbers. -/
def RealText.isTooLarge (t : RealText) : Bool :=
  let n := readDigits 0 (t.whole ++ t.fraction)
  let places : Int := t.exponent - t.fraction.length
  let size : Int := (Nat.toDigits 10 n).length + places
  if n = 0 || size < 0 then false
  else if 400 < size then true
  else (Binary64.round? false (n * Nat.pow 10 places.toNat) (Nat.pow 10 (-places).toNat)).isNone

def readExponent : List Char → Option (Int × List Char)
  | c :: s =>
    if c = 'e' || c = 'E' then do
      let (negative, s) := readSign s
      let (ds, s) ← digits Char.isDigit s
      let n : Int := readDigits 0 ds
      some (if negative then -n else n, s)
    else some (0, c :: s)
  | [] => some (0, [])

/-- The fraction and the exponent after the whole digits. -/
def readRealFrom (negative : Bool) (whole : List Char) :
    List Char → Option (RealText × List Char)
  | '.' :: s => do
    let (fraction, s) ← digits Char.isDigit s
    let (exponent, s) ← readExponent s
    some (⟨negative, whole, fraction, exponent⟩, s)
  | s => do
    let (exponent, s) ← readExponent s
    some (⟨negative, whole, [], exponent⟩, s)

/-- Whether a fraction or an exponent follows. -/
def goesOn : List Char → Bool
  | c :: _ => c = '.' || c = 'e' || c = 'E'
  | [] => false

/-- The words for infinity and for what is no number. -/
def readWord : List Char → Option (String × List Char)
  | 'i' :: 'n' :: 'f' :: s => some ("inf", s)
  | 'n' :: 'a' :: 'n' :: s => some ("nan", s)
  | _ => none

/-! ### Dates and times -/

/-- A number of `n` digits between two bounds. -/
def readPart (n low high : Nat) (s : List Char) : Option (Nat × List Char) :=
  let ds := s.take n
  if ds.length = n && ds.all Char.isDigit then
    let m := readDigits 0 ds
    if low ≤ m ∧ m ≤ high then some (m, s.drop n) else none
  else none

def expect (c : Char) : List Char → Option (List Char)
  | d :: s => if d = c then some s else none
  | [] => none

def isLeapYear (year : Nat) : Bool := year % 4 = 0 && (year % 100 ≠ 0 || year % 400 = 0)

def daysIn (year month : Nat) : Nat :=
  if month = 2 then (if isLeapYear year then 29 else 28)
  else if month ∈ [4, 6, 9, 11] then 30
  else 31

/-- A day; the text after it. -/
def readDay (s : List Char) : Option (List Char) := do
  let (year, s) ← readPart 4 0 9999 s
  let (month, s) ← readPart 2 1 12 (← expect '-' s)
  let (_, s) ← readPart 2 1 (daysIn year month) (← expect '-' s)
  some s

/-- A time of the day; the text after it. -/
def readTime (s : List Char) : Option (List Char) := do
  let (_, s) ← readPart 2 0 23 s
  let (_, s) ← readPart 2 0 59 (← expect ':' s)
  let (_, s) ← readPart 2 0 60 (← expect ':' s)
  match s with
  | '.' :: c :: r => some (if c.isDigit then r.dropWhile Char.isDigit else s)
  | _ => some s

/-- The text after an offset, if there is one. -/
def readOffset : List Char → Option (List Char)
  | 'Z' :: s | 'z' :: s => some s
  | '+' :: s | '-' :: s => do
    let (_, s) ← readPart 2 0 23 s
    let (_, s) ← readPart 2 0 59 (← expect ':' s)
    some s
  | s => some s

/-- Whether two digits and a colon stand at the start. -/
def startsTime : List Char → Bool
  | a :: b :: ':' :: _ => a.isDigit && b.isDigit
  | _ => false

/-- Whether four digits and a hyphen stand at the start. -/
def startsDay : List Char → Bool
  | a :: b :: c :: d :: '-' :: _ => [a, b, c, d].all Char.isDigit
  | _ => false

/-- The time that may follow a day after one of three marks. -/
def readTimeAfterDay (s : List Char) : Option (List Char) :=
  match s with
  | c :: r =>
    if (c = 'T' || c = 't' || c = ' ') && startsTime r then do readOffset (← readTime r)
    else some s
  | [] => some []

/-- A date, a time, or both; the text after it. -/
def readDate (s : List Char) : Option (List Char) :=
  if startsDay s then do readTimeAfterDay (← readDay s) else readTime s

/-! ### All together -/

/-- The start of a text of which `rest` is the end. -/
def before (s rest : List Char) : String := String.ofList (s.take (s.length - rest.length))

/-- A number that is not followed by a fraction or an exponent is a whole one. -/
def readReal (s : List Char) : Option (Toml × List Char) :=
  let (negative, r) := readSign s
  match readWord r with
  | some (_, rest) => some (.real (before s rest), rest)
  | none => do
    let (whole, r) ← decimal r
    if goesOn r then
      let (t, rest) ← readRealFrom negative whole r
      if t.isTooLarge && !t.negative then none
      else some (.real (before s rest), rest)
    else readInteger s

/-- A number or a date. -/
def readNumber (s : List Char) : Option (Toml × List Char) :=
  if startsDay s || startsTime s then (readDate s).map fun rest => (.date (before s rest), rest)
  else readReal s

end Soql.Toml
