import CallTree.Decimal.Binary
import CallTree.Value.Basic

/-!
# Measured quantities

Latencies, costs and rates are measured in some kind of number. Benchmarks run with floating point
numbers; what is said of their gate holds of any kind of number with these operations.
-/

namespace CallTree

/-- Numbers that quantities are measured in. -/
class Measure (κ : Type) extends Add κ, Sub κ, Mul κ, Div κ where
  /-- The measure of a count. -/
  ofCount : Nat → κ
  /-- Whether a measure is less than another. -/
  less : κ → κ → Bool
  /-- Whether a count is greater than a measure. -/
  countAbove : Nat → κ → Bool
  /-- How a measure is shown in reports. -/
  shown : κ → Value

namespace Measure

variable {κ : Type} [Measure κ]

/-- The sum of a list of measures, taken from the left. -/
def total (xs : List κ) : κ := xs.foldl (· + ·) (ofCount 0)

/-- The larger of two measures, the first if neither is less than the other. -/
def larger (x y : κ) : κ := if less x y then y else x

/-- The largest of a list of measures, zero if there is none. -/
def largest : List κ → κ
  | [] => ofCount 0
  | x :: xs => xs.foldl larger x

/-- The larger of zero and a measure. -/
def positivePart (x : κ) : κ := larger (ofCount 0) x

/-- A count per another count, zero if the other is. -/
def perCount (m n : Nat) : κ := if n = 0 then ofCount 0 else ofCount m / ofCount n

end Measure

/-- Floating point numbers; counts are compared with them exactly. -/
instance : Measure Float where
  ofCount n := Decimal.nearest false n 1
  less x y := x < y
  countAbove n x := Decimal.compareInt n x == some .gt
  shown x := .float x

end CallTree
