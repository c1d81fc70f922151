import CallTree.Tool.Provider

/-!
# Actions on a provider

Evaluating a program is an effect on a provider's state: it gives a value or a fault, and its trace
is the tool calls that were made, in order.
-/

namespace CallTree

/-- A call of a tool with named arguments. -/
structure Call where
  tool : String
  args : List (String × Value)

/-- Why the evaluation of a program failed. -/
inductive EvalFault where
  /-- The provider or a tool failed. -/
  | raised (fault : Fault)
  /-- The provider has no metadata for the tool. -/
  | unavailable (tool : String)
  /-- The metadata of the tool is not well formed. -/
  | definition (fault : DefinitionFault)
  /-- The call has another number of arguments than the tool has parameters. -/
  | arity (tool : String) (expected got : Nat)
  /-- A list operation was given something else than a list. -/
  | notList (op : ListOp)
  /-- The lambda of a list operation has no parameter. -/
  | noParameter
  /-- The lambda of a reduce does not mention its first parameter. -/
  | noPlaceholder
  /-- The lambda of a reduce has another number of parameters than two. -/
  | parameterCount
  /-- The node is of no particular kind. -/
  | unsupported
  deriving DecidableEq, Repr

instance : Described EvalFault where
  label
    | .raised f => Described.label f
    | .unavailable _ => "ProviderResponseError"
    | .definition d => Described.label d
    | .arity _ _ _ => "ASTValidationError"
    | .notList _ => "TypeError"
    | .noParameter => "IndexError"
    | .noPlaceholder => "IndexError"
    | .parameterCount => "ValueError"
    | .unsupported => "NotImplementedError"
  wording?
    | .raised f => Described.wording? f
    | .unavailable tool => some ("Tool " ++ tool ++ " is not available")
    | .definition d => Described.wording? d
    | .arity tool expected got =>
      some ("Function '" ++ tool ++ "' expects " ++ toString expected ++ " parameters, got " ++
        toString got)
    | .notList op => some (op.title ++ " expects an iterable (list) as input")
    | .unsupported => some "Unsupported AST node: TreeNode"
    | _ => none

/-- An effect on a provider's state. -/
abbrev Action (σ α : Type) := Effect σ EvalFault Call α

namespace Action

variable {σ α : Type}

/-- An operation of the provider that is no tool call. -/
def ask (x : Attempt σ Fault α) : Action σ α := fun s ↦
  match x s with
  | (.ok a, s) => ⟨.ok a, s, []⟩
  | (.error e, s) => ⟨.error (.raised e), s, []⟩

/-- A tool call. -/
def invoke (p : Provider σ) (tool : String) (args : List (String × Value)) : Action σ Value :=
  fun s ↦
    match p.invoke tool args s with
    | (.ok v, s) => ⟨.ok v, s, [⟨tool, args⟩]⟩
    | (.error e, s) => ⟨.error (.raised e), s, [⟨tool, args⟩]⟩

end Action

end CallTree
