import CallTree.Tool.Provider

/-!
# Built-in tools

A built-in tool is a function of the library itself. The provider over a list of them describes
each tool by the names of its parameters and runs it with named arguments.
-/

namespace CallTree

/-- A tool that is a function of values; it is given one value for each parameter. -/
structure Builtin where
  name : String
  parameters : List String
  description : Option String := none
  run : List Value → Except Fault Value

namespace Builtin

/-- Runs a tool with positional arguments. -/
def apply (b : Builtin) (args : List Value) : Except Fault Value :=
  if args.length = b.parameters.length then b.run args else .error .wrongKind

/-- Runs a tool with named arguments, which have to be those of its parameters. -/
def applyNamed (b : Builtin) (args : List (String × Value)) : Except Fault Value :=
  if args.all (fun a ↦ b.parameters.contains a.1) then
    match b.parameters.mapM fun p ↦ args.lookup p with
    | some vs => b.run vs
    | none => .error .wrongKind
  else .error .wrongKind

/-- The metadata of a tool. -/
def definition (b : Builtin) : Definition :=
  ⟨b.name, b.parameters.map fun p ↦ (p, []), some b.description⟩

/-- The registry of a list of tools. -/
def registry (tools : List Builtin) : Registry Value :=
  Registry.ofList (tools.map fun b ↦ (b.name, b.definition.toValue))

/-- Lists the tools; the first listing fills the registry. -/
def list (tools : List Builtin) : Attempt (Option (Registry Value)) Fault (List Value) := fun s ↦
  let r := s.getD (registry tools)
  (.ok (r.map Prod.snd), some r)

/-- The provider over a list of tools. -/
def provider (tools : List Builtin) : Provider (Option (Registry Value)) where
  list := list tools
  define := lookUp id (list tools)
  invoke name args := fun s ↦
    match tools.find? (·.name = name) with
    | some b => (b.applyNamed args, s)
    | none => (.error .noSuchKey, s)

end Builtin

end CallTree
