/-
# Punycode

Labels of domain names in ASCII: the ASCII characters of a label, a hyphen, and then for
each other character its place and its number as one increment, written in digits to a
base of 36 whose weights adapt to the increments before.

Key definitions: `Punycode.decode?`.
-/

namespace Soql.Punycode

def digit? (c : Char) : Option Nat :=
  if 'a' ≤ c ∧ c ≤ 'z' then some (c.toNat - 97)
  else if 'A' ≤ c ∧ c ≤ 'Z' then some (c.toNat - 65)
  else if '0' ≤ c ∧ c ≤ '9' then some (c.toNat - 22)
  else none

/-- The least digit that does not end a number at place `k`. -/
def threshold (k bias : Nat) : Nat :=
  if k ≤ bias then 1 else if bias + 26 ≤ k then 26 else k - bias

/-- Divides by 35 until at most 455 is left, counting 36 for each time. -/
def settle (delta k : Nat) : Nat × Nat :=
  if 455 < delta then settle (delta / 35) (k + 36) else (delta, k)
termination_by delta
decreasing_by exact Nat.div_lt_self (by omega) (by omega)

/-- The bias after an increment `delta` that made a label of `points` characters. -/
def adapt (delta points : Nat) (isFirst : Bool) : Nat :=
  let d := if isFirst then delta / 700 else delta / 2
  let (d, k) := settle (d + d / points) 0
  k + 36 * d / (d + 38)

/-- One increment at place `k`, read on from `i` with weight `w`. -/
def readIncrement (bias : Nat) : Nat → Nat → Nat → List Char → Option (Nat × List Char)
  | _, _, _, [] => none
  | i, w, k, c :: s =>
    match digit? c with
    | none => none
    | some d =>
      let t := threshold k bias
      if d < t then some (i + d * w, s)
      else readIncrement bias (i + d * w) (w * (36 - t)) (k + 36) s

/-- Inserts the characters that the increments describe into `out`; `fuel` bounds their number. -/
def insertAll : Nat → (n i bias : Nat) → List Char → List Char → Option (List Char)
  | _, _, _, _, out, [] => some out
  | 0, _, _, _, _, _ => none
  | fuel + 1, n, i, bias, out, s =>
    match readIncrement bias i 1 36 s with
    | none => none
    | some (j, r) =>
      let points := out.length + 1
      let m := n + j / points
      let place := j % points
      if h : m.isValidChar then
        insertAll fuel m (place + 1) (adapt (j - i) points (i = 0 && n = 128))
          (out.take place ++ Char.ofNatAux m h :: out.drop place) r
      else none

/-- The characters before the last hyphen, and the digits after it. -/
def cutAtLastHyphen (s : List Char) : List Char × List Char :=
  let digits := (s.reverse.takeWhile (· != '-')).reverse
  (s.take (s.length - digits.length - 1), digits)

def decode? (s : List Char) : Option (List Char) :=
  let (out, digits) := cutAtLastHyphen s
  insertAll s.length 128 0 72 out digits

end Soql.Punycode
