import CallTree.Fault
import CallTree.Decimal.Place

/-!
# Arithmetic on values

Numbers are whole numbers of any size or doubles; truth values count as zero and one. An operation
on whole numbers is exact. An operation that meets a double is done on doubles, and a whole number
that no double can hold makes it fail. A quotient is always a double, the one nearest to the exact
quotient when both numbers are whole. Sums also join texts and lists, and products repeat them.
-/

namespace CallTree.Value

open CallTree.Decimal

/-! ## Conversions -/

/-- A whole number as a double. -/
def floatOfInt (n : Int) : Except Fault Float :=
  match ofInt? n with
  | some x => .ok x
  | none => .error .overflow

/-- The bytes of a text in a single-byte code. -/
def charsOfBytes (bs : List UInt8) : List Char := bs.map fun b ↦ Char.ofNat b.toNat

/-- A value as a double: a number, or a numeral in a text. -/
def toFloat : Value → Except Fault Float
  | .bool b => .ok (if b then 1.0 else 0.0)
  | .int n => floatOfInt n
  | .float x => .ok x
  | .str s => match floatOfChars? s.toList with
    | some x => .ok x
    | none => .error .badValue
  | .bytes bs =>
    if bs.all (· < 128) then
      match floatOfChars? (charsOfBytes bs) with
      | some x => .ok x
      | none => .error .badValue
    else .error .badValue
  | _ => .error .wrongKind

/-- A value as a whole number: a number without its fraction, or a numeral in a text. -/
def toInt : Value → Except Fault Int
  | .bool b => .ok (if b then 1 else 0)
  | .int n => .ok n
  | .float x => match Binary.ofFloat x with
    | .nan => .error .badValue
    | .infinite _ => .error .overflow
    | .finite neg m e => .ok (truncate neg m e)
  | .str s => match intOfChars? s.toList with
    | some n => .ok n
    | none => .error .badValue
  | .bytes bs =>
    if bs.all (· < 128) then
      match intOfChars? (charsOfBytes bs) with
      | some n => .ok n
      | none => .error .badValue
    else .error .badValue
  | _ => .error .wrongKind

/-! ## Numbers -/

/-- A real number. -/
inductive Number where
  | whole (n : Int)
  | double (x : Float)

/-- The number as a value. -/
def Number.toValue : Number → Value
  | .whole n => .int n
  | .double x => .float x

/-- The number as a double. -/
def Number.toFloat : Number → Except Fault Float
  | .whole n => floatOfInt n
  | .double x => .ok x

/-- The number a value stands for. -/
def number? : Value → Option Number
  | .bool b => some (.whole (if b then 1 else 0))
  | .int n => some (.whole n)
  | .float x => some (.double x)
  | _ => none

/-- An operation on whole numbers and on doubles. -/
def Number.combine (onInt : Int → Int → Int) (onFloat : Float → Float → Float)
    (a b : Number) : Except Fault Number :=
  match a, b with
  | .whole m, .whole n => .ok (.whole (onInt m n))
  | a, b => do return .double (onFloat (← a.toFloat) (← b.toFloat))

/-- The sum of two numbers. -/
def Number.add : Number → Number → Except Fault Number := combine (· + ·) (· + ·)

/-- The quotient of two numbers. -/
def Number.div (a b : Number) : Except Fault Float :=
  match a, b with
  | .whole m, .whole n =>
    if n = 0 then .error .divisionByZero
    else match nearest? ((m < 0) != (n < 0)) m.natAbs n.natAbs with
      | some x => .ok x
      | none => .error .overflow
  | a, b => do
    let x ← a.toFloat
    let y ← b.toFloat
    if y == 0.0 then .error .divisionByZero else return x / y

/-- Whether the first number is less than the second. -/
def Number.less : Number → Number → Bool
  | .whole m, .whole n => m < n
  | .whole m, .double y => compareInt m y == some .lt
  | .double x, .whole n => compareInt n x == some .gt
  | .double x, .double y => x < y

/-! ## Powers -/

/-- Whether a double is an odd whole number. -/
def isOdd (x : Float) : Bool := x == x.floor && (x / 2.0) != (x / 2.0).floor

/-- A power of a negative double with a fractional exponent. -/
def complexPower (x y : Float) : Except Fault Value :=
  let len := Float.pow x.abs y
  let phase := Float.atan2 0.0 x * y
  let re := len * phase.cos
  let im := len * phase.sin
  if re.isInf || im.isInf then .error .overflow else .ok (.complex re im)

/-- A power of a finite double that is not zero, with a finite exponent that is not zero. -/
def finitePower (x y : Float) : Except Fault Value :=
  if x < 0.0 && y != y.floor then complexPower x y
  else
    let neg := x < 0.0 && isOdd y
    let r := if x.abs == 1.0 then 1.0 else Float.pow x.abs y
    if r.isInf then .error .overflow else .ok (.float (if neg then -r else r))

/-- A power of doubles. -/
def floatPower (x y : Float) : Except Fault Value :=
  if y == 0.0 then .ok (.float 1.0)
  else if x.isNaN then .ok (.float x)
  else if y.isNaN then .ok (.float (if x == 1.0 then 1.0 else y))
  else if y.isInf then
    if x.abs == 1.0 then .ok (.float 1.0)
    else .ok (.float (if (y > 0.0) == (x.abs > 1.0) then infinity false else 0.0))
  else if x.isInf then
    if y > 0.0 then .ok (.float (if isOdd y then x else x.abs))
    else .ok (.float (if isOdd y && x < 0.0 then -0.0 else 0.0))
  else if x == 0.0 then
    if y < 0.0 then .error .divisionByZero
    else .ok (.float (if isOdd y then x else 0.0))
  else finitePower x y

/-- A power of a whole number; small bases need no long computation. -/
def intPower (m : Int) (n : Nat) : Int :=
  if n = 0 then 1
  else if m = 0 then 0
  else if m = 1 then 1
  else if m = -1 then (if n % 2 = 0 then 1 else -1)
  else Int.pow m n

/-- A power of numbers. -/
def Number.pow (a b : Number) : Except Fault Value :=
  match a, b with
  | .whole m, .whole n =>
    if 0 ≤ n then .ok (.int (intPower m n.toNat))
    else do
      let x ← floatOfInt m
      let y ← floatOfInt n
      floatPower x y
  | a, b => do
    let x ← a.toFloat
    let y ← b.toFloat
    floatPower x y

/-! ## Operations on values -/

/-- Some number of copies of a list, one after another. -/
def repeatList {α : Type} (n : Int) (xs : List α) : List α :=
  (List.replicate n.toNat xs).flatten

/-- An operation on two numbers. -/
def onNumbers {α : Type} (f : Number → Number → Except Fault α) (a b : Value) : Except Fault α :=
  match a.number?, b.number? with
  | some x, some y => f x y
  | _, _ => .error .wrongKind

/-- A sum: of numbers, or of two texts, lists, tuples or byte texts joined. -/
def add : Value → Value → Except Fault Value
  | .str s, .str t => .ok (.str (s ++ t))
  | .list xs, .list ys => .ok (.list (xs ++ ys))
  | .tuple xs, .tuple ys => .ok (.tuple (xs ++ ys))
  | .bytes xs, .bytes ys => .ok (.bytes (xs ++ ys))
  | a, b => onNumbers (fun x y ↦ (x.add y).map Number.toValue) a b

/-- A difference. -/
def sub (a b : Value) : Except Fault Value :=
  onNumbers (fun x y ↦ (x.combine (· - ·) (· - ·) y).map Number.toValue) a b

/-- A sequence repeated, if the first value is one and the second a whole number. -/
def repeated? (a b : Value) : Option Value :=
  match a, b.number? with
  | .str s, some (.whole n) => some (.str (String.ofList (repeatList n s.toList)))
  | .list xs, some (.whole n) => some (.list (repeatList n xs))
  | .tuple xs, some (.whole n) => some (.tuple (repeatList n xs))
  | .bytes bs, some (.whole n) => some (.bytes (repeatList n bs))
  | _, _ => none

/-- A product: of numbers, or a sequence repeated. -/
def mul (a b : Value) : Except Fault Value :=
  match repeated? a b, repeated? b a with
  | some v, _ => .ok v
  | none, some v => .ok v
  | none, none => onNumbers (fun x y ↦ (x.combine (· * ·) (· * ·) y).map Number.toValue) a b

/-- A quotient. -/
def div (a b : Value) : Except Fault Value :=
  onNumbers (fun x y ↦ (x.div y).map .float) a b

/-- A power. -/
def pow (a b : Value) : Except Fault Value := onNumbers Number.pow a b

mutual

/-- Whether the first value is greater than the second. Texts and sequences are compared by their
first difference. -/
def greater : Value → Value → Except Fault Bool
  | .str s, .str t => .ok (decide (t < s))
  | .bytes xs, .bytes ys => .ok (decide (ys.map UInt8.toNat < xs.map UInt8.toNat))
  | .list xs, .list ys => greaterAll xs ys
  | .tuple xs, .tuple ys => greaterAll xs ys
  | a, b => onNumbers (fun x y ↦ .ok (y.less x)) a b

/-- Whether the first sequence is greater than the second. -/
def greaterAll : List Value → List Value → Except Fault Bool
  | [], _ => .ok false
  | _ :: _, [] => .ok true
  | x :: xs, y :: ys => if x.equal y then greaterAll xs ys else x.greater y

end

/-- The items that a value runs through. -/
def itemsOf : Value → Except Fault (List Value)
  | .list xs => .ok xs
  | .tuple xs => .ok xs
  | .set xs => .ok xs
  | .map es => .ok (es.map Prod.fst)
  | .str s => .ok (s.toList.map fun c ↦ .str (String.singleton c))
  | .bytes bs => .ok (bs.map fun b ↦ .int b.toNat)
  | _ => .error .wrongKind

/-- The sum of numbers, from left to right. -/
def sumFrom (acc : Number) : List Value → Except Fault Number
  | [] => .ok acc
  | v :: vs => match v.number? with
    | some x => do sumFrom (← acc.add x) vs
    | none => .error .wrongKind

/-- The mean of the items of a value. -/
def mean (v : Value) : Except Fault Float := do
  let items ← itemsOf v
  let total ← sumFrom (.whole 0) items
  total.div (.whole items.length)

/-- Whether a value holds a whole number among its items. -/
def holds (v : Value) (n : Int) : Except Fault Bool :=
  match v with
  | .str _ => .error .wrongKind
  | .bytes bs =>
    if 0 ≤ n ∧ n < 256 then .ok (bs.any fun b ↦ (b.toNat : Int) = n) else .error .badValue
  | v => do return (← itemsOf v).any fun x ↦ (Value.int n).equal x

end CallTree.Value
