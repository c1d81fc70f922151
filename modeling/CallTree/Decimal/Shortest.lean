import CallTree.Decimal.Binary

/-!
# The shortest decimal that reads back

A double is written with the fewest decimal digits whose value still rounds to it. The decimals
that round to a double form an interval around it, with its ends counted in exactly when the
mantissa is even. For one digit, two digits, and so on, the double's two neighbours on the grid of
decimals with that many digits are tried; the first grid with a hit gives the digits, and of two
hits the nearer one is taken.
-/

namespace CallTree.Decimal

/-- The decimal `digits * 10 ^ exponent`. -/
structure Scientific where
  digits : Nat
  exponent : Int
  deriving DecidableEq, Repr

/-- The decimals that round to a double, with the double itself, over one denominator. -/
structure Interval where
  low : Nat
  mid : Nat
  high : Nat
  den : Nat
  closed : Bool

/-- The interval of the double `m * 2 ^ e`: its ends lie halfway to the neighbouring doubles, and
the lower neighbour is half as far away at a power of two. -/
def Interval.ofBinary (m : Nat) (e : Int) : Interval :=
  let low := if m == twoTo 52 && e > minExponent then 4 * m - 1 else 4 * m - 2
  let (s, d) := ratio 1 (e - 2)
  ⟨low * s, 4 * m * s, (4 * m + 2) * s, d, m % 2 == 0⟩

/-- Whether the decimal `c * 10 ^ k` lies in the interval. -/
def Interval.holds (i : Interval) (c : Nat) (k : Int) : Bool :=
  let (x, y) := if k < 0 then (c * i.den, tenTo (-k).toNat) else (c * i.den * tenTo k.toNat, 1)
  if i.closed then i.low * y ≤ x && x ≤ i.high * y else i.low * y < x && x < i.high * y

/-- The number of decimal digits of a natural number. -/
def digitCount (n : Nat) : Nat := (Nat.toDigits 10 n).length

/-- The `p` with `10 ^ (p - 1) ≤ num / den < 10 ^ p`, for positive `num` and `den`. -/
def decimalPoint (num den : Nat) : Int :=
  let p : Int := (digitCount num : Int) - (digitCount den : Int)
  let fits (p : Int) : Bool :=
    if p < 0 then num * tenTo (-p).toNat < den else num < den * tenTo p.toNat
  if fits p then p else p + 1

/-- The decimal in the interval with digits down to the place `10 ^ k`, if there is one. -/
def onGrid? (i : Interval) (k : Int) : Option Scientific :=
  let (num, den) :=
    if k < 0 then (i.mid * tenTo (-k).toNat, i.den) else (i.mid, i.den * tenTo k.toNat)
  let c := num / den
  let below := c != 0 && i.holds c k
  let above := i.holds (c + 1) k
  if below && above then
    -- the nearer of the two, the even one halfway
    some ⟨roundDiv num den, k⟩
  else if below then some ⟨c, k⟩
  else if above then some ⟨c + 1, k⟩
  else none

/-- Tries the grids with `17 - fuel` and more digits. -/
def searchGrids (i : Interval) (point : Int) : Nat → Scientific
  | 0 => ⟨roundDiv (if point < 17 then i.mid * tenTo (17 - point).toNat else i.mid)
      (if point < 17 then i.den else i.den * tenTo (point - 17).toNat), point - 17⟩
  | fuel + 1 => (onGrid? i (point - (17 - fuel : Nat))).getD (searchGrids i point fuel)

/-- A decimal without trailing zeros among its digits. -/
def Scientific.trim (s : Scientific) : Nat → Scientific
  | 0 => s
  | fuel + 1 =>
    if s.digits != 0 && s.digits % 10 == 0 then
      Scientific.trim ⟨s.digits / 10, s.exponent + 1⟩ fuel
    else s

/-- The shortest decimal that rounds to the double `m * 2 ^ e`. -/
def shortest (m : Nat) (e : Int) : Scientific :=
  if m == 0 then ⟨0, 0⟩
  else
    let i := Interval.ofBinary m e
    (searchGrids i (decimalPoint i.mid i.den) 17).trim 17

/-! ## Writing a double -/

/-- How the text of a double looks. -/
structure Format where
  /-- The decimal point is written in place while it lies in this range. -/
  minPoint : Int
  maxPoint : Int
  nan : String
  infinity : String

/-- Values are written with the point in place from `0.0001` up to seventeen digits. -/
def plain : Format := ⟨-3, 16, "nan", "inf"⟩

/-- JSON text spells the numbers that are not finite its own way. -/
def inJson : Format := ⟨-3, 16, "NaN", "Infinity"⟩

/-- The digits of a natural number. -/
def natText (n : Nat) : String := String.ofList (Nat.toDigits 10 n)

/-- `n` zeros. -/
def zeroText (n : Nat) : String := String.ofList (List.replicate n '0')

/-- The text of a decimal with its point in place, or with an exponent of at least two digits. -/
def Format.decimal (f : Format) (s : Scientific) : String :=
  let ds := Nat.toDigits 10 s.digits
  let point : Int := (ds.length : Int) + s.exponent
  if s.digits == 0 then "0.0"
  else if f.minPoint ≤ point && point ≤ f.maxPoint then
    if point ≤ 0 then "0." ++ zeroText (-point).toNat ++ String.ofList ds
    else if ds.length ≤ point.toNat then
      String.ofList ds ++ zeroText (point.toNat - ds.length) ++ ".0"
    else String.ofList (ds.take point.toNat) ++ "." ++ String.ofList (ds.drop point.toNat)
  else
    let e := point - 1
    let es := natText e.natAbs
    String.ofList (ds.take 1) ++ (if ds.length > 1 then "." ++ String.ofList (ds.drop 1) else "") ++
      (if e < 0 then "e-" else "e+") ++ (if es.length < 2 then "0" ++ es else es)

/-- The text of a double. -/
def Format.float (f : Format) (x : Float) : String :=
  match Binary.ofFloat x with
  | .nan => f.nan
  | .infinite neg => (if neg then "-" else "") ++ f.infinity
  | .finite neg m e => (if neg then "-" else "") ++ f.decimal (shortest m e)

end CallTree.Decimal
