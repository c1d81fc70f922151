import CallTree.Eval.Action

/-!
# Evaluation

A program is evaluated against a provider, in bindings of names to values. A leaf is the value
bound to its name, or else its own literal. A call looks up its tool, checks the number of
arguments, evaluates the arguments and runs the tool. A lambda evaluates to a
closure; the lambda of a list operation is invoked once for each item, with its parameters bound.

A reduce starts from the value of the first leaf in its lambda that is named by the first
parameter; if that is null, it starts from the first item and goes on with the others.

The arguments of a call, and the nodes of a program, are taken from left to right, and nothing is
done after a failure. That is one of the runs that siblings can make which are evaluated together;
all of them are described by `Job.Runs`.
-/

namespace CallTree

/-- What a call may put in front of a tool's name. -/
def callMark : String := "functions."

/-- A text without the mark in front of it, if it has one. -/
def dropMark (mark cs : List Char) : List Char :=
  if mark.isPrefixOf cs then cs.drop mark.length else cs

/-- The name under which the provider knows the tool of a call. -/
def toolName (tool : String) : String :=
  String.ofList (dropMark callMark.toList tool.toList)

/-- The parameters of a tool that is to be called with the given number of arguments. -/
def parametersFor {σ : Type} (p : Provider σ) (tool : String) (count : Nat) :
    Action σ (List String) := do
  let raw ← Action.ask (p.define tool)
  if !raw.truthy then Effect.fail (.unavailable tool)
  else match Definition.ofValue (some tool) raw with
    | .error d => Effect.fail (.definition d)
    | .ok d =>
      if d.parameters.length = count then Effect.done d.parameters
      else Effect.fail (.arity tool d.parameters.length count)

/-- Calls a tool; the arguments are worked out after its parameters are known. -/
def callTool {σ : Type} (p : Provider σ) (tool : String) (count : Nat)
    (args : Action σ (List Value)) : Action σ Value := do
  let params ← parametersFor p (toolName tool) count
  let values ← args
  Action.invoke p (toolName tool) (params.zip values)

/-- The items of a list operation. -/
def itemsOf {σ : Type} (op : ListOp) : Value → Action σ (List Value)
  | .list xs => Effect.done xs
  | _ => Effect.fail (.notList op)

/-- Works through a list and keeps the items whose result counts as true. -/
def keepItems {σ : Type} (f : Value → Action σ Value) : List Value → Action σ (List Value)
  | [] => Effect.done []
  | x :: xs => do
    let y ← f x
    let ys ← keepItems f xs
    return if y.truthy then x :: ys else ys

/-- Works through a list with an accumulator. -/
def foldItems {σ : Type} (f : Value → Value → Action σ Value) :
    Value → List Value → Action σ Value
  | acc, [] => Effect.done acc
  | acc, x :: xs => do
    let acc ← f acc x
    foldItems f acc xs

/-- A leaf in bindings. -/
def leafValue (names : Bindings) (name : String) (literal : Value) : Value :=
  (names.get? name).getD literal

/-- The first leaf of a name among the nodes of some trees. -/
def firstLeaf? (name : String) (ns : List Tree) : Option Value :=
  ns.findSome? fun
    | .value n literal => if n = name then some literal else none
    | _ => none

/-- One step of a reduce: the accumulator and an item are bound to the two parameters. -/
def reduceStep {σ : Type} (names : Bindings) (params : List String)
    (body : Bindings → Action σ Value) (acc x : Value) : Action σ Value :=
  match params with
  | [p, q] => body (names.extend [(p, acc), (q, x)])
  | _ => Effect.fail .parameterCount

/-- The value of the first leaf of a name among the nodes of some trees. -/
def placeholder? (names : Bindings) (leaves : List Tree) (name : String) : Option Value :=
  (firstLeaf? name leaves).map (leafValue names name)

/-- Reduces a list with a lambda, given by what it does in bindings. What the first parameter stands
for before the first step is given by `start?`. -/
def reduceItems {σ : Type} (start? : String → Option Value) (names : Bindings)
    (params : List String) (body : Bindings → Action σ Value) (items : List Value) :
    Action σ Value :=
  match items with
  | [] => Effect.done .null
  | first :: rest =>
    match params with
    | [] => Effect.fail .noParameter
    | accumulator :: _ =>
      match start? accumulator with
      | none => Effect.fail .noPlaceholder
      | some start =>
        let step := reduceStep names params body
        if start.isNull then foldItems step first rest else foldItems step start (first :: rest)

/-- Runs a list operation with a lambda, given by what it does in bindings. -/
def runListOp {σ : Type} (op : ListOp) (start? : String → Option Value) (names : Bindings)
    (params : List String) (body : Bindings → Action σ Value) (items : List Value) :
    Action σ Value :=
  match op with
  | .reduce => reduceItems start? names params body items
  | .map =>
    match params with
    | [] => Effect.fail .noParameter
    | p :: _ => do return .list (← Effect.each (fun x ↦ body (names.extend [(p, x)])) items)
  | .filter =>
    match params with
    | [] => Effect.fail .noParameter
    | p :: _ => do return .list (← keepItems (fun x ↦ body (names.extend [(p, x)])) items)

/-- What a program gives: the result of its only node, or the list of results. -/
def programResult : List Value → Value
  | [v] => v
  | vs => .list vs

mutual

/-- Evaluates a tree in bindings. -/
def eval {σ : Type} (p : Provider σ) (names : Bindings) : Tree → Action σ Value
  | .value name literal => Effect.done (leafValue names name literal)
  | .call tool args => callTool p tool args.length (evalAll p names args)
  | .program _ body => do return programResult (← evalAll p names body)
  | .cond test yes none => do
    let t ← eval p names test
    if t.truthy then eval p names yes else return .null
  | .cond test yes (some no) => do
    let t ← eval p names test
    if t.truthy then eval p names yes else eval p names no
  | .lambda params tool args => Effect.done (.closure params tool args names)
  | .over op params tool args items => do
    let v ← eval p names items
    let xs ← itemsOf op v
    runListOp op (placeholder? names (Node.nodesAll args)) names params
      (fun names ↦ callTool p tool args.length (evalAll p names args)) xs
  | .bare => Effect.fail .unsupported

/-- Evaluates trees from left to right, up to the first failure. -/
def evalAll {σ : Type} (p : Provider σ) (names : Bindings) : List Tree → Action σ (List Value)
  | [] => Effect.done []
  | t :: ts => do
    let v ← eval p names t
    let vs ← evalAll p names ts
    return v :: vs

end

/-- Invokes a closure with named arguments. -/
def invokeClosure {σ : Type} (p : Provider σ) (tool : String) (args : List Tree)
    (names : Bindings) (arguments : List (String × Value)) : Action σ Value :=
  eval p (names.extend arguments) (.call tool args)

/-- Evaluates a program with no names bound. -/
def run {σ : Type} (p : Provider σ) (t : Tree) : Action σ Value := eval p [] t

end CallTree
