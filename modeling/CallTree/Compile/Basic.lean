import CallTree.Eval.Context
import CallTree.Text.Blank
import CallTree.Text.Identifier
import CallTree.Tree.Leaves
import CallTree.Tree.Visit

/-!
# Compiled tools

A program with a name and a description can be turned into a tool: its leaves become parameters, in
the order of a visit. A parameter is called after its leaf, with a number behind the name where it
is taken; it has the type that the enclosing call's tool gives to the property of that name.

The enclosing call of a leaf is found with a stack. Each call met on the way puts the properties of
its tool on top; a leaf whose name is not among those on top takes the topmost away, once. Programs
with lambdas are not compiled. Compiling asks the provider for definitions and runs no tool.

Calling a compiled tool runs its program with the arguments bound to the leaves, each to the one
that its parameter stands for.
-/

namespace CallTree

/-- The type of a parameter. -/
inductive Annotation where
  | text
  | whole
  | decimal
  | truth
  | list
  | mapping
  | any
  deriving DecidableEq, Repr

/-- The type that a word in a tool's metadata stands for. -/
def Annotation.ofWord : String → Annotation
  | "string" => .text
  | "integer" => .whole
  | "number" => .decimal
  | "boolean" => .truth
  | "array" => .list
  | "object" => .mapping
  | _ => .any

/-- The name of a type. -/
def Annotation.name : Annotation → String
  | .text => "str"
  | .whole => "int"
  | .decimal => "float"
  | .truth => "bool"
  | .list => "list"
  | .mapping => "dict"
  | .any => "Any"

/-- A parameter of a compiled tool. -/
structure Parameter where
  name : String
  annotation : Annotation
  deriving DecidableEq, Repr

/-- Why a program cannot be compiled. -/
inductive CompileFault where
  | notProgram
  | noName
  | noDescription
  /-- The program holds a lambda or a list operation. -/
  | higherOrder
  /-- The provider failed. -/
  | raised (fault : Fault)
  /-- The metadata of a tool is not well formed. -/
  | definition (fault : DefinitionFault)
  /-- A leaf has no enclosing call. -/
  | noCall
  /-- The enclosing call's tool has no property of the leaf's name. -/
  | noProperty
  /-- The parameters make no signature. -/
  | badParameter (program : String)
  deriving DecidableEq, Repr

instance : Described CompileFault where
  label
    | .notProgram => "ValueError"
    | .noName => "ValueError"
    | .noDescription => "ValueError"
    | .higherOrder => "ValueError"
    | .raised f => Described.label f
    | .definition d => Described.label d
    | .noCall => "IndexError"
    | .noProperty => "KeyError"
    | .badParameter _ => "ASTCompilationError"
  wording?
    | .notProgram => some "AST root must be a TreeProgram"
    | .noName => some "AST program must have a name"
    | .noDescription => some "AST program must have a description"
    | .higherOrder => some
      "Higher order functions (lambdas, maps) are not yet supported in tool creation"
    | .raised f => Described.wording? f
    | .definition d => Described.wording? d
    | .badParameter program => some ("Invalid function signature for " ++ program)
    | _ => none

/-! ## Names of parameters -/

/-- A name with a number behind it. -/
def numbered (name : String) (k : Nat) : String := name ++ "_" ++ toString k

/-- The first free one of the names with numbers `k`, `k + 1`, and so on; the count bounds the
search. -/
def firstFree (name : String) (taken : List String) : Nat → Nat → String
  | 0, k => numbered name k
  | fuel + 1, k =>
    if taken.contains (numbered name k) then firstFree name taken fuel (k + 1) else numbered name k

/-- The name itself if it is free, and otherwise the first free name with a number from two on. Of
more numbers than names are taken, one is free. -/
def uniqueName (name : String) (taken : List String) : String :=
  if taken.contains name then firstFree name taken taken.length 2 else name

/-! ## Collecting parameters -/

/-- The properties of a tool. -/
abbrev Properties := List (String × List (Value × Value))

/-- What a visit has collected: the parameters, and the properties of the calls on the stack. -/
structure Collected where
  parameters : List Parameter := []
  stack : List Properties := []

/-- The names of the parameters so far. -/
def Collected.names (c : Collected) : List String := c.parameters.map (·.name)

/-- The stack at a leaf: without its top if that has no property of the leaf's name. -/
def Collected.atLeaf (c : Collected) (name : String) : Except CompileFault (List Properties) :=
  match c.stack with
  | [] => .error .noCall
  | top :: rest => .ok (if (top.lookup name).isSome then top :: rest else rest)

/-- The type of a property. -/
def annotationOf (metadata : List (Value × Value)) : Annotation :=
  match Value.entry? "type" metadata with
  | some (.str word) => Annotation.ofWord word
  | _ => .any

/-- Collects a leaf. -/
def Collected.leaf (program name : String) (c : Collected) : Except CompileFault Collected := do
  match ← c.atLeaf name with
  | [] => .error .noCall
  | top :: rest =>
    match top.lookup name with
    | none => .error .noProperty
    | some metadata =>
      let parameter := uniqueName name c.names
      if Text.isParameterName parameter then
        return ⟨c.parameters ++ [⟨parameter, annotationOf metadata⟩], top :: rest⟩
      else .error (.badParameter program)

/-- Collects a node. Of the list operations only a map is refused by itself; a filter or a reduce is
refused for its lambda, which a visit comes to next. -/
def collect {σ : Type} (p : Provider σ) (program : String) :
    Visitor Value (σ × Collected) CompileFault := fun n (s, c) ↦
  match n with
  | .lambda _ _ _ => (.error .higherOrder, (s, c))
  | .over .map _ _ _ _ => (.error .higherOrder, (s, c))
  | .call tool _ =>
    match p.define tool s with
    | (.error e, s) => (.error (.raised e), (s, c))
    | (.ok raw, s) =>
      match Definition.ofValue (some tool) raw with
      | .error d => (.error (.definition d), (s, c))
      | .ok d => (.ok (), (s, { c with stack := d.properties :: c.stack }))
  | .value name _ =>
    match c.leaf program name with
    | .ok c => (.ok (), (s, c))
    | .error e => (.error e, (s, c))
  | _ => (.ok (), (s, c))

/-! ## Compiling and calling -/

/-- A program turned into a tool. -/
structure CompiledTool where
  name : String
  description : String
  /-- One for each leaf of the program, in the order of a visit. -/
  parameters : List Parameter
  body : Tree

/-- Makes a signature of parameters. It takes no two of the same name. -/
def signature (program : String) (parameters : List Parameter) :
    Except CompileFault (List Parameter) :=
  if (parameters.map (·.name)).Nodup then .ok parameters else .error (.badParameter program)

/-- Compiles a program. -/
def compile {σ : Type} (p : Provider σ) (t : Tree) : Attempt σ CompileFault CompiledTool := fun s ↦
  match t with
  | .program heading _ =>
    match Text.filled? heading.name, Text.filled? heading.description with
    | none, _ => (.error .noName, s)
    | some _, none => (.error .noDescription, s)
    | some name, some description =>
      match visit (collect p name) t (s, {}) with
      | (.error e, (s, _)) => (.error e, s)
      | (.ok (), (s, c)) =>
        match signature name c.parameters with
        | .error e => (.error e, s)
        | .ok parameters => (.ok ⟨name, description, parameters, t⟩, s)
  | _ => (.error .notProgram, s)

/-- Why a call of a compiled tool failed. -/
inductive CallFault where
  /-- The arguments are not those of the parameters. -/
  | binding (program : String)
  /-- The program failed. -/
  | execution (program : String) (cause : EvalFault)
  /-- The work was called off. -/
  | cancelled
  deriving DecidableEq, Repr

instance : Described CallFault where
  label
    | .binding _ => "TypeError"
    | .execution _ _ => "ASTExecutionError"
    | .cancelled => "CancelledError"
  wording?
    | .binding program => some ("Argument binding failed for " ++ program ++ "(): ")
    | .execution program cause =>
      some ("Error executing " ++ program ++ "(): " ++ wording cause)
    | .cancelled => none

namespace CompiledTool

/-- Whether the named arguments are exactly those of the parameters. -/
def accepts (c : CompiledTool) (arguments : List (String × Value)) : Bool :=
  c.parameters.all (fun q ↦ (arguments.lookup q.name).isSome) &&
  arguments.all fun a ↦ c.parameters.any (·.name == a.1)

/-- The arguments in the order of the parameters; of two with one name the later counts. -/
def values (c : CompiledTool) (arguments : List (String × Value)) : List Value :=
  c.parameters.map fun q ↦ (arguments.reverse.lookup q.name).getD .null

/-- The context of a call: each argument is bound to the leaf of its parameter. -/
def context (c : CompiledTool) (arguments : List (String × Value)) : Context where
  leaves i := (c.values arguments)[i]?

/-- Calls a compiled tool. Positional arguments are never accepted. -/
def apply {σ : Type} (c : CompiledTool) (p : Provider σ) (positional : List Value)
    (arguments : List (String × Value)) : Effect σ CallFault Call Value := fun s ↦
  if positional.isEmpty && c.accepts arguments then
    let o := evalIn p (c.context arguments) 0 c.body s
    let result := match o.result with
      | .ok v => .ok v
      | .error (.raised .cancelled) => .error .cancelled
      | .error e => .error (.execution c.name e)
    ⟨result, o.state, o.trace⟩
  else ⟨.error (.binding c.name), s, []⟩

end CompiledTool

end CallTree
