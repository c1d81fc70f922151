import CallTree.Decimal.Shortest

/-!
# Rounding to decimal places

The exact value of a double is rounded to a number of decimal places, with a half going to the even
neighbour. No decimal text is read back on the way.
-/

namespace CallTree.Decimal

/-- A finite double in units of `10 ^ (-places)`, rounded to the nearest whole number of them. -/
def inPlaces (places : Nat) (m : Nat) (e : Int) : Nat :=
  let (n, d) := ratio m e
  roundDiv (n * tenTo places) d

/-- The double rounded to decimal places. -/
def roundTo (places : Nat) (x : Float) : Float :=
  match Binary.ofFloat x with
  | .finite neg m e => nearest neg (inPlaces places m e) (tenTo places)
  | _ => x

/-- The double written with a fixed number of decimal places. -/
def fixed (places : Nat) (x : Float) : String :=
  match Binary.ofFloat x with
  | .nan => "nan"
  | .infinite neg => if neg then "-inf" else "inf"
  | .finite neg m e =>
    let u := inPlaces places m e
    let tail := natText (u % tenTo places)
    (if neg then "-" else "") ++ natText (u / tenTo places) ++
      (if places == 0 then "" else "." ++ zeroText (places - tail.length) ++ tail)

/-- The double as a percentage with the given number of decimal places. -/
def percent (places : Nat) (x : Float) : String := fixed places (x * 100.0) ++ "%"

end CallTree.Decimal
