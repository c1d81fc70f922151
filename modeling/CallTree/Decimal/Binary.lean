/-!
# Binary numbers of double precision

A finite double is a whole number times a power of two. This module takes a `Float` apart into
these parts and puts the double nearest to a given quotient of whole numbers together again, with
ties going to the even mantissa. All of it is exact arithmetic on natural numbers, so that reading
and writing decimal text never depend on the rounding of another operation.
-/

namespace CallTree.Decimal

/-- A power of two. -/
def twoTo (n : Nat) : Nat := Nat.pow 2 n

/-- A power of ten. -/
def tenTo (n : Nat) : Nat := Nat.pow 10 n

/-- A double taken apart: no number, an infinity, or `mantissa * 2 ^ exponent` with a sign. -/
inductive Binary where
  | nan
  | infinite (neg : Bool)
  | finite (neg : Bool) (mantissa : Nat) (exponent : Int)
  deriving DecidableEq, Repr

/-- The exponent of the smallest positive double. -/
def minExponent : Int := -1074

/-- The parts of a double. -/
def Binary.ofFloat (x : Float) : Binary :=
  let bits := x.toBits.toNat
  let neg := bits / twoTo 63 == 1
  let e : Nat := bits / twoTo 52 % twoTo 11
  let m := bits % twoTo 52
  if e == 2047 then (if m == 0 then .infinite neg else .nan)
  else if e == 0 then .finite neg m minExponent
  else .finite neg (m + twoTo 52) ((e : Int) - 1075)

/-- The double with the given bits. -/
def ofBits (n : Nat) : Float := Float.ofBits (UInt64.ofNat n)

/-- The bit of the sign. -/
def signBits (neg : Bool) : Nat := if neg then twoTo 63 else 0

/-- The infinity of the given sign. -/
def infinity (neg : Bool) : Float := ofBits (signBits neg + 2047 * twoTo 52)

/-- The double that is no number. -/
def notANumber : Float := ofBits (2047 * twoTo 52 + twoTo 51)

/-- The quotient of `num` and `den` rounded to the nearest whole number, ties to the even one. -/
def roundDiv (num den : Nat) : Nat :=
  let q := num / den
  let r := num % den
  if 2 * r < den then q
  else if 2 * r > den then q + 1
  else if q % 2 == 0 then q else q + 1

/-- `num / den` divided by `2 ^ e`, as a quotient of whole numbers. -/
def scaleDown (num den : Nat) (e : Int) : Nat × Nat :=
  if e < 0 then (num * twoTo (-e).toNat, den) else (num, den * twoTo e.toNat)

/-- The greatest `k` with `2 ^ k ≤ num / den`, for positive `num` and `den`. -/
def floorLog2 (num den : Nat) : Int :=
  let k : Int := (num.log2 : Int) - (den.log2 : Int)
  let (n, d) := scaleDown num den k
  if d ≤ n then k else k - 1

/-- The double nearest to `num / den` with the given sign, ties to the even mantissa; `none` when
it would lie beyond the greatest finite double. -/
def nearest? (neg : Bool) (num den : Nat) : Option Float :=
  if num == 0 || den == 0 then some (ofBits (signBits neg))
  else
    let e := max (floorLog2 num den - 52) minExponent
    let (n, d) := scaleDown num den e
    let m := roundDiv n d
    -- rounding up may carry into the next power of two
    let (m, e) := if m == twoTo 53 then (twoTo 52, e + 1) else (m, e)
    if m < twoTo 52 then some (ofBits (signBits neg + m))
    else if e + 1075 ≥ 2047 then none
    else some (ofBits (signBits neg + (e + 1075).toNat * twoTo 52 + (m - twoTo 52)))

/-- The double nearest to `num / den`, an infinity when there is no finite one. -/
def nearest (neg : Bool) (num den : Nat) : Float :=
  (nearest? neg num den).getD (infinity neg)

/-- A whole number as a double; `none` when it is too large. -/
def ofInt? (n : Int) : Option Float := nearest? (n < 0) n.natAbs 1

/-- The exact value of a finite double as a quotient of whole numbers. -/
def ratio (m : Nat) (e : Int) : Nat × Nat :=
  if e < 0 then (m, twoTo (-e).toNat) else (m * twoTo e.toNat, 1)

/-- A finite double without its fraction. -/
def truncate (neg : Bool) (m : Nat) (e : Int) : Int :=
  let (n, d) := ratio m e
  if neg then -((n / d : Nat) : Int) else ((n / d : Nat) : Int)

/-- The order of a whole number and a double; `none` when the double is no number. -/
def compareInt (n : Int) (x : Float) : Option Ordering :=
  match Binary.ofFloat x with
  | .nan => none
  | .infinite neg => some (if neg then .gt else .lt)
  | .finite neg m e =>
    let (p, q) := ratio m e
    let p : Int := if neg then -(p : Int) else p
    some (compare (n * (q : Int)) p)

end CallTree.Decimal
