/-
# The shortest decimal of a binary number

Of all decimals that round to a given number the one with the fewest digits is
written, of several the nearest to the number, and in the middle the even one. It is
written positionally while its point lies between the fifth place before its first
digit and the sixteenth place, and with an exponent beyond that.

Key definitions: `Binary64.shortest`, `Binary64.text`.
-/
import Soql.Number.Binary64

namespace Soql.Binary64

/-- The greatest `l` with `10 ^ l ≤ num / den`, for a number of 64 bits that is not zero. -/
def floorLog10 (num den : Nat) : Int :=
  ((Nat.toDigits 10 (num * Nat.pow 10 400 / den)).length : Int) - 401

/-- The decimal `d * 10 ^ k` rounds to `x`: it lies no farther from `x` than the middle
towards the neighbour on its side, and a middle belongs to the even significand. -/
def roundsTo (x : Binary64) (d : Nat) (k : Int) : Bool :=
  -- everything in units of `2 ^ (x.exponent - 2)`
  let below := if x.significand = leastNormal && -1074 < x.exponent then 1 else 2
  let low := 4 * x.significand - below
  let high := 4 * x.significand + 2
  let e := x.exponent - 2
  let num := (d * Nat.pow 10 k.toNat) <<< (-e).toNat
  let den := Nat.pow 10 (-k).toNat <<< e.toNat
  if x.significand % 2 = 0 then low * den ≤ num && num ≤ high * den
  else low * den < num && num < high * den

/-- The decimal without its trailing zeros. -/
def stripZeros : Nat → Nat → Int → Nat × Int
  | 0, d, k => (d, k)
  | n + 1, d, k => if d != 0 && d % 10 = 0 then stripZeros n (d / 10) (k + 1) else (d, k)

/-- The best decimal with `n` digits, if one rounds to `x`. -/
def withDigits (x : Binary64) (n : Nat) : Option (Nat × Int) :=
  let (num, den) := x.fraction
  let k := floorLog10 num den + 1 - n
  let num := num * Nat.pow 10 (-k).toNat
  let den := den * Nat.pow 10 k.toNat
  let q := num / den
  let r := num % den
  let nearer := if 2 * r < den then q else if den < 2 * r then q + 1
    else if q % 2 = 0 then q else q + 1
  let other := if nearer = q then q + 1 else q
  if roundsTo x nearer k then some (nearer, k)
  else if roundsTo x other k then some (other, k)
  else none

/-- The shortest decimal `d * 10 ^ k` of a number that is not zero. -/
def shortest (x : Binary64) : Nat × Int :=
  match (List.range 17).findSome? fun n => withDigits x (n + 1) with
  | some (d, k) => stripZeros 20 d k
  | none => (x.significand, x.exponent)

/-- The digits `ds` with the point after `point` of them. -/
def layout (ds : List Char) (point : Int) : List Char :=
  let n : Int := ds.length
  if n ≤ point && point ≤ 16 then ds ++ List.replicate (point - n).toNat '0' ++ ['.', '0']
  else if 0 < point && point ≤ 16 then ds.take point.toNat ++ '.' :: ds.drop point.toNat
  else if -5 < point && point ≤ 0 then
    '0' :: '.' :: (List.replicate (-point).toNat '0' ++ ds)
  else
    let exponent := (toString (point - 1)).toList
    match ds with
    | [] => []
    | [d] => d :: 'e' :: exponent
    | d :: ds => d :: '.' :: (ds ++ 'e' :: exponent)

/-- The number as it is written. -/
def text (x : Binary64) : String :=
  let body :=
    if x.significand = 0 then ['0', '.', '0']
    else
      let (d, k) := x.shortest
      let ds := Nat.toDigits 10 d
      layout ds (ds.length + k)
  String.ofList (if x.negative then '-' :: body else body)

end Soql.Binary64
