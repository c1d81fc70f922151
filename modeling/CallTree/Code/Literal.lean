import CallTree.Code.Read
import CallTree.Value.Equal

/-!
# Values of literal texts

Services often answer with a value in the notation of a program text: numbers, quoted texts and
bytes, lists, tuples, mappings, sets, and a few words. Reading such a text has two stages. The first
takes the text apart into an expression; the second works out its value, which only expressions made
of literals have: a sign in front of a number and the sum of a real and an imaginary number count as
such.
-/

namespace CallTree.Code

open CallTree.Decimal

/-- Why a text has no value as a literal. -/
inductive LiteralFault where
  /-- The text is not a literal. -/
  | notLiteral
  /-- A key of a mapping or a member of a set cannot be one. -/
  | badKey
  /-- A whole number is too large to be a part of a complex number. -/
  | tooLarge
  deriving DecidableEq, Repr

/-- A number without a sign. -/
def number : Expr → Except LiteralFault Value
  | .atom (.int n) => .ok (.int n)
  | .atom (.float x) => .ok (.float x)
  | .atom (.complex re im) => .ok (.complex re im)
  | _ => .error .notLiteral

/-- A number with its sign turned if asked for. -/
def turnSign (neg : Bool) (v : Value) : Value :=
  if neg then
    match v with
    | .int n => .int (-n)
    | .float x => .float (-x)
    | .complex re im => .complex (-re) (-im)
    | v => v
  else v

/-- A number with at most one sign. -/
def signedNumber : Expr → Except LiteralFault Value
  | .signed neg e => (number e).map (turnSign neg)
  | e => number e

/-- The sum or difference of a real and an imaginary number. -/
def complexSum (neg : Bool) (re : Float) (im : Value) : Except LiteralFault Value :=
  match im with
  | .complex x y =>
    .ok (if neg then .complex (re - x) (0.0 - y) else .complex (re + x) (0.0 + y))
  | _ => .error .notLiteral

mutual

/-- The value of an expression. -/
def value : Expr → Except LiteralFault Value
  | .atom v => .ok v
  | .name _ => .error .notLiteral
  | .starred _ => .error .notLiteral
  | .other _ => .error .notLiteral
  | .signed neg e => (number e).map (turnSign neg)
  | .sum left neg right => do
    let l ← signedNumber left
    let r ← number right
    match l, r with
    | .int n, .complex x y =>
      match ofInt? n with
      | some re => complexSum neg re (.complex x y)
      | none => .error .tooLarge
    | .float re, r => complexSum neg re r
    | _, _ => .error .notLiteral
  | .list es => do return .list (← values es)
  | .tuple es => do return .tuple (← values es)
  | .set es => do return .set (Value.distinct (← keys es))
  | .map es => do return .map (Value.ofPairs (← entries es))

/-- The values of expressions, in order. -/
def values : List Expr → Except LiteralFault (List Value)
  | [] => .ok []
  | e :: es => do
    let v ← value e
    let vs ← values es
    return v :: vs

/-- The members of a set; each has to be fit for it before the next is worked out. -/
def keys : List Expr → Except LiteralFault (List Value)
  | [] => .ok []
  | e :: es => do
    let v ← value e
    if !v.isKey then .error .badKey
    let vs ← keys es
    return v :: vs

/-- The entries of a mapping; each key has to be fit for it before the next entry is worked out. -/
def entries : List (Expr × Expr) → Except LiteralFault (List (Value × Value))
  | [] => .ok []
  | (k, e) :: es => do
    let k ← value k
    let v ← value e
    if !k.isKey then .error .badKey
    let vs ← entries es
    return (k, v) :: vs

end

/-- The value of a literal text. -/
def readLiteral (s : String) : Except LiteralFault Value :=
  match readExpr s.toList with
  | some e => value e
  | none => .error .notLiteral

end CallTree.Code
