import CallTree.Value.Basic

/-!
# Trees as values

A tree is written as nested mappings: each node is a mapping with its kind under `type` and its
fields by name. Reading accepts exactly the declared fields of each kind. A field with a default
may be left out, and so may the kind where the place of the node says it: at the root, in the body
of a lambda and in the function of a list operation.
-/

namespace CallTree

/-- The kinds of nodes. -/
inductive NodeKind where
  | value
  | call
  | program
  | cond
  | lambda
  | over (op : ListOp)
  | bare
  deriving DecidableEq, Repr

/-- The version of the form in which programs are written. -/
def formVersion : String := "1.0"

/-- The kind a word stands for. -/
def NodeKind.ofWord? : String → Option NodeKind
  | "value" => some .value
  | "function" => some .call
  | "program" => some .program
  | "conditional" => some .cond
  | "lambda" => some .lambda
  | "map" => some (.over .map)
  | "filter" => some (.over .filter)
  | "reduce" => some (.over .reduce)
  | "node" => some .bare
  | _ => none

/-- The fields of a kind of node, its kind apart. -/
def NodeKind.fields : NodeKind → List String
  | .value => ["name", "value"]
  | .call => ["name", "params"]
  | .program => ["body", "mode", "name", "description", "schema_version"]
  | .cond => ["condition", "true_branch", "false_branch"]
  | .lambda => ["params", "body"]
  | .over _ => ["function", "iterable"]
  | .bare => []

/-! ## Writing -/

/-- The word for a mode. -/
def Mode.word : Mode → String
  | .single => "single"
  | .parallel => "parallel"

/-- The mode a word stands for. -/
def Mode.ofWord? : String → Option Mode
  | "single" => some .single
  | "parallel" => some .parallel
  | _ => none

/-- The word for a list operation. -/
def ListOp.word : ListOp → String
  | .map => "map"
  | .filter => "filter"
  | .reduce => "reduce"

/-- A call whose arguments are already written. -/
def callForm (tool : String) (args : List Value) : Value :=
  .record [("type", .str "function"), ("name", .str tool), ("params", .list args)]

/-- A lambda whose arguments are already written. -/
def lambdaForm (params : List String) (tool : String) (args : List Value) : Value :=
  .record [("type", .str "lambda"), ("params", .texts params), ("body", callForm tool args)]

/-- A conditional whose parts are already written. -/
def condForm (test yes no : Value) : Value :=
  .record [("type", .str "conditional"), ("condition", test), ("true_branch", yes),
    ("false_branch", no)]

mutual

/-- A tree with all declared fields. -/
def Node.toValue : Tree → Value
  | .value name literal =>
    .record [("type", .str "value"), ("name", .str name), ("value", literal)]
  | .call tool args => callForm tool (formAll args)
  | .program heading body =>
    .record [("type", .str "program"), ("body", .list (formAll body)),
      ("mode", .str heading.mode.word), ("name", .text? heading.name),
      ("description", .text? heading.description), ("schema_version", .str formVersion)]
  | .cond test yes none => condForm test.toValue yes.toValue .null
  | .cond test yes (some no) => condForm test.toValue yes.toValue no.toValue
  | .lambda params tool args => lambdaForm params tool (formAll args)
  | .over op params tool args items =>
    .record [("type", .str op.word), ("function", lambdaForm params tool (formAll args)),
      ("iterable", items.toValue)]
  | .bare => .record [("type", .str "node")]

/-- The trees of a list with all declared fields. -/
def formAll : List Tree → List Value
  | [] => []
  | t :: ts => t.toValue :: formAll ts

end

/-! ## Reading -/

/-- A field of a mapping that may be a node: the value as it is, and what it is as a node of a
given kind, if it does not say so itself, and as a list of nodes. -/
structure FormField where
  raw : Value
  node? : Option NodeKind → Option Tree
  nodes? : Option (List Tree)

/-- The fields of a mapping. -/
abbrev FormFields := List (String × FormField)

namespace FormFields

/-- A field that has to be a text and not empty. -/
def name? (fs : FormFields) (key : String) : Option String :=
  match fs.lookup key with
  | some ⟨.str s, _, _⟩ => if s = "" then none else some s
  | _ => none

/-- A field that may be a text, null or absent. -/
def text? (fs : FormFields) (key : String) : Option (Option String) :=
  match fs.lookup key with
  | none => some none
  | some ⟨.null, _, _⟩ => some none
  | some ⟨.str s, _, _⟩ => some (some s)
  | _ => none

/-- A field that has to be a list of texts. -/
def texts? (fs : FormFields) (key : String) : Option (List String) :=
  match fs.lookup key with
  | some ⟨.list xs, _, _⟩ => xs.mapM Value.str?
  | _ => none

/-- A field that has to be a node; the kind is for a node that does not say its own. -/
def node? (fs : FormFields) (key : String) (kind : Option NodeKind) : Option Tree :=
  (fs.lookup key).bind (·.node? kind)

/-- A field that has to be a list of nodes. -/
def nodes? (fs : FormFields) (key : String) : Option (List Tree) :=
  (fs.lookup key).bind (·.nodes?)

/-- The kind of a node from its fields. -/
def kind? (fs : FormFields) (kind : Option NodeKind) : Option NodeKind :=
  match fs.lookup "type" with
  | none => kind
  | some ⟨.str s, _, _⟩ => NodeKind.ofWord? s
  | some _ => none

/-- The heading of a program. -/
def heading? (fs : FormFields) : Option Heading := do
  let mode ← (← fs.name? "mode") |> Mode.ofWord?
  let name ← fs.text? "name"
  let description ← fs.text? "description"
  match fs.lookup "schema_version" with
  | none => return ⟨mode, name, description⟩
  | some ⟨.str s, _, _⟩ => if s = formVersion then return ⟨mode, name, description⟩ else none
  | some _ => none

/-- The lambda in a field. -/
def lambda? (fs : FormFields) (key : String) :
    Option (List String × String × List Tree) :=
  match fs.node? key (some .lambda) with
  | some (.lambda params tool args) => some (params, tool, args)
  | _ => none

/-- Puts a node of a kind together from its fields. -/
def assembleAs (fs : FormFields) : NodeKind → Option Tree
  | .value => do
    let name ← fs.name? "name"
    let field ← fs.lookup "value"
    return .value name field.raw
  | .call => do
    let tool ← fs.name? "name"
    let args ← fs.nodes? "params"
    return .call tool args
  | .program => do
    let heading ← fs.heading?
    let body ← fs.nodes? "body"
    return .program heading body
  | .cond => do
    let test ← fs.node? "condition" none
    let yes ← fs.node? "true_branch" none
    match fs.lookup "false_branch" with
    | none => return .cond test yes none
    | some ⟨.null, _, _⟩ => return .cond test yes none
    | some field =>
      let no ← field.node? none
      return .cond test yes (some no)
  | .lambda => do
    let params ← fs.texts? "params"
    match ← fs.node? "body" (some .call) with
    | .call tool args => return .lambda params tool args
    | _ => none
  | .over op => do
    let (params, tool, args) ← fs.lambda? "function"
    let items ← fs.node? "iterable" none
    return .over op params tool args items
  | .bare => some .bare

/-- Puts a node together from its fields, which have to be fields of its kind. -/
def assemble (fs : FormFields) (kind : Option NodeKind) : Option Tree := do
  let kind ← fs.kind? kind
  if fs.all (fun f ↦ f.1 = "type" || kind.fields.contains f.1) then fs.assembleAs kind else none

end FormFields

mutual

/-- The tree a value is the form of; the kind is for a node that does not say its own. -/
def nodeOfValue : Value → Option NodeKind → Option Tree
  | .map entries, kind => do FormFields.assemble (← fieldsOf entries) kind
  | _, _ => none

/-- The trees that the values of a list are the forms of. -/
def nodesOfValues : List Value → Option (List Tree)
  | [] => some []
  | v :: vs => do return (← nodeOfValue v none) :: (← nodesOfValues vs)

/-- The list of trees that a value is the form of. -/
def nodesOfValue : Value → Option (List Tree)
  | .list vs => nodesOfValues vs
  | _ => none

/-- The fields of a mapping; all its keys have to be texts. -/
def fieldsOf : List (Value × Value) → Option FormFields
  | [] => some []
  | (.str k, v) :: es => do
    return (k, ⟨v, fun kind ↦ nodeOfValue v kind, nodesOfValue v⟩) :: (← fieldsOf es)
  | _ :: _ => none

end

/-- The tree that a value is the form of; the root is a program unless it says otherwise. -/
def Node.ofValue? (v : Value) : Option Tree := nodeOfValue v (some .program)

end CallTree
