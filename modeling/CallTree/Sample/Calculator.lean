import CallTree.Tool.Builtin
import CallTree.Value.Arithmetic

/-!
# The calculator tools

Seven tools that compute with two numbers, or one. They are the arithmetic of values as it is; only
division by zero and roots of negative numbers are refused with a reason.
-/

namespace CallTree.Sample

/-- A tool of two values. -/
def binaryTool (name : String) (f : Value → Value → Except Fault Value) : Builtin :=
  ⟨name, ["a", "b"], none, fun
    | [a, b] => f a b
    | _ => .error .wrongKind⟩

/-- A quotient; a divisor that equals zero is refused. -/
def quotient (a b : Value) : Except Fault Value :=
  if b.equal (.int 0) then .error (.refused "Cannot divide by zero.") else a.div b

/-- A square root. -/
def squareRoot (a : Value) : Except Fault Value := do
  let x ← a.toFloat
  if x < 0.0 then .error (.refused "Cannot take square root of a negative number.")
  else Value.floatPower x 0.5

/-- The tools. -/
def calculator : List Builtin := [
  binaryTool "add" Value.add,
  binaryTool "subtract" Value.sub,
  binaryTool "multiply" Value.mul,
  binaryTool "divide" quotient,
  binaryTool "power" Value.pow,
  binaryTool "greater_than" fun a b ↦ (a.greater b).map .bool,
  ⟨"sqrt", ["a"], none, fun
    | [a] => squareRoot a
    | _ => .error .wrongKind⟩]

end CallTree.Sample
