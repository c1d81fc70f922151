import CallTree.Eval.Basic
import CallTree.Tree.Leaves

/-!
# Evaluation in a context

Values are bound to names, which is what lambdas do, and they may be bound to single leaves, which
is how a compiled tool is given its arguments: leaves of one name can then have values of their own.
The value bound to a leaf comes before the value bound to its name.

Which leaf of a program is meant is said by its number, counting from zero in the order of a visit.
So the evaluation of a part of a program has to know the number of its first leaf. Where no leaf is
bound, numbers do not matter, and what is left is `eval`.
-/

namespace CallTree

/-- What a program is evaluated in. -/
structure Context where
  names : Bindings := []
  /-- The values that are bound to leaves, by their numbers. -/
  leaves : Nat → Option Value := fun _ ↦ none

namespace Context

/-- The value of a leaf: the one bound to the leaf, or bound to its name, or its literal. -/
def valueFor (c : Context) (i : Nat) (name : String) (literal : Value) : Value :=
  (c.leaves i).getD (leafValue c.names name literal)

/-- The value of the first leaf of a name among nodes in the order of a visit, of which the first
leaf has the number `i`. -/
def placeholder? (c : Context) (name : String) : Nat → List Tree → Option Value
  | _, [] => none
  | i, .value n literal :: ns =>
    if n = name then some (c.valueFor i n literal) else c.placeholder? name (i + 1) ns
  | i, _ :: ns => c.placeholder? name i ns

end Context

mutual

/-- Evaluates a tree in a context; its first leaf has the number `i`. -/
def evalIn {σ : Type} (p : Provider σ) (c : Context) (i : Nat) : Tree → Action σ Value
  | .value name literal => Effect.done (c.valueFor i name literal)
  | .call tool args => callTool p tool args.length (evalAllIn p c i args)
  | .program _ body => do return programResult (← evalAllIn p c i body)
  | .cond test yes none => do
    let t ← evalIn p c i test
    if t.truthy then evalIn p c (i + test.leaves.length) yes else return .null
  | .cond test yes (some no) => do
    let t ← evalIn p c i test
    if t.truthy then evalIn p c (i + test.leaves.length) yes
    else evalIn p c (i + test.leaves.length + yes.leaves.length) no
  | .lambda params tool args => Effect.done (.closure params tool args c.names)
  | .over op params tool args items => do
    let v ← evalIn p c (i + (Node.leavesAll args).length) items
    let xs ← itemsOf op v
    runListOp op (fun name ↦ c.placeholder? name i (Node.nodesAll args)) c.names params
      (fun names ↦ callTool p tool args.length (evalAllIn p { c with names } i args)) xs
  | .bare => Effect.fail .unsupported

/-- Evaluates trees in a context from left to right; their first leaf has the number `i`. -/
def evalAllIn {σ : Type} (p : Provider σ) (c : Context) (i : Nat) :
    List Tree → Action σ (List Value)
  | [] => Effect.done []
  | t :: ts => do
    let v ← evalIn p c i t
    let vs ← evalAllIn p c (i + t.leaves.length) ts
    return v :: vs

end

end CallTree
