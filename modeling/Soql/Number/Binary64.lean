/-
# Binary floating-point numbers of 64 bits

A finite number is a sign, a significand below 2^53 and a power of two. Arithmetic is
done in exact fractions and rounded once, to the nearest number and to the even
significand in the middle.

Key definitions: `Binary64`, `Binary64.round?`, `Binary64.mul?`, `Binary64.div?`.
-/

namespace Soql

/-- The number `± significand * 2 ^ exponent`. -/
structure Binary64 where
  negative : Bool
  significand : Nat
  exponent : Int
deriving DecidableEq, Repr

namespace Binary64

def zero (negative : Bool) : Binary64 := ⟨negative, 0, -1074⟩

/-- The least significand of 53 bits, `2 ^ 52`. -/
def leastNormal : Nat := 1 <<< 52

/-- The greatest `l` with `2 ^ l ≤ num / den`, for positive `num` and `den`. -/
def floorLog2 (num den : Nat) : Int :=
  let l : Int := (Nat.log2 num : Int) - (Nat.log2 den : Int)
  let reached := if 0 ≤ l then den <<< l.toNat ≤ num else den ≤ num <<< (-l).toNat
  if reached then l else l - 1

/-- The quotient rounded to the nearest number, a half to the even one. -/
def roundHalfEven (num den : Nat) : Nat :=
  let q := num / den
  let r := num % den
  if 2 * r < den then q
  else if den < 2 * r then q + 1
  else if q % 2 = 0 then q else q + 1

/-- The number nearest to `± num / den`; none when that is beyond the greatest one. -/
def round? (negative : Bool) (num den : Nat) : Option Binary64 :=
  if num = 0 then some (zero negative)
  else
    let e := max (floorLog2 num den - 52) (-1074)
    let q :=
      if 0 ≤ e then roundHalfEven num (den <<< e.toNat)
      else roundHalfEven (num <<< (-e).toNat) den
    let (q, e) := if q = 2 * leastNormal then (leastNormal, e + 1) else (q, e)
    if 971 < e then none
    else if q = 0 then some (zero negative)
    else some ⟨negative, q, e⟩

/-- The number without its sign as a fraction. -/
def fraction (x : Binary64) : Nat × Nat :=
  if 0 ≤ x.exponent then (x.significand <<< x.exponent.toNat, 1)
  else (x.significand, 1 <<< (-x.exponent).toNat)

def mul? (x y : Binary64) : Option Binary64 :=
  round? (x.negative != y.negative) (x.fraction.1 * y.fraction.1) (x.fraction.2 * y.fraction.2)

/-- The quotient by a number that is not zero. -/
def div? (x y : Binary64) : Option Binary64 :=
  round? (x.negative != y.negative) (x.fraction.1 * y.fraction.2) (x.fraction.2 * y.fraction.1)

end Binary64

end Soql
