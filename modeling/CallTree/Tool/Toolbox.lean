import CallTree.Tool.Provider

/-!
# Toolboxes

A toolbox is a provider made of small tools that are given by their rule: they echo or pick their
arguments, compute with whole numbers, join texts, or fail. It serves examples, and shows the three
ways in which a provider can look up its tools.
-/

namespace CallTree

/-- What a small tool does with its arguments. -/
inductive Rule where
  | echo
  | const (value : Value)
  | fail (detail : String)
  | list
  | first
  | last
  | sum
  | mul
  | sub
  | gt
  | even
  | cat
  | len
  | range

/-- The word for a rule. -/
def Rule.word : Rule → String
  | .echo => "echo"
  | .const _ => "const"
  | .fail _ => "fail"
  | .list => "list"
  | .first => "first"
  | .last => "last"
  | .sum => "sum"
  | .mul => "mul"
  | .sub => "sub"
  | .gt => "gt"
  | .even => "even"
  | .cat => "cat"
  | .len => "len"
  | .range => "range"

/-- The arguments as whole numbers. -/
def wholes? (args : List (String × Value)) : Option (List Int) :=
  (args.map Prod.snd).mapM Value.int?

/-- The result of a rule that takes its arguments to be of the right kind. -/
def Rule.result? (name : String) (args : List (String × Value)) : Rule → Option Value
  | .echo => some (.record [("tool", .str name),
      ("args", .list (args.map fun (k, v) ↦ .list [.str k, v]))])
  | .const v => some v
  | .fail _ => none
  | .list => some (.list (args.map Prod.snd))
  | .first => args.head?.map Prod.snd
  | .last => args.getLast?.map Prod.snd
  | .sum => (wholes? args).map fun ns ↦ .int (ns.foldl (· + ·) 0)
  | .mul => (wholes? args).map fun ns ↦ .int (ns.foldl (· * ·) 1)
  | .sub => match args with
    | [(_, .int a), (_, .int b)] => some (.int (a - b))
    | _ => none
  | .gt => match args with
    | [(_, .int a), (_, .int b)] => some (.bool (a > b))
    | _ => none
  | .even => match args with
    | [(_, .int a)] => some (.bool (a % 2 = 0))
    | _ => none
  | .cat => ((args.map Prod.snd).mapM Value.str?).map fun ss ↦ .str ("".intercalate ss)
  | .len => match args with
    | [(_, .str s)] => some (.int s.length)
    | [(_, .list xs)] => some (.int xs.length)
    | _ => none
  | .range => match args with
    | [(_, .int n)] => some (.list ((List.range n.toNat).map fun i : Nat ↦ .int (i : Int)))
    | _ => none

/-- Applies a rule to arguments. -/
def Rule.apply (name : String) (args : List (String × Value)) (r : Rule) : Except Fault Value :=
  match r, r.result? name args with
  | .fail detail, _ => .error (.toolFailed detail)
  | _, some v => .ok v
  | r, none => .error (.toolFailed (r.word ++ ": bad argument"))

/-- A small tool. -/
structure SmallTool where
  name : String
  /-- The metadata of the tool, of any shape. -/
  metadata : Value
  rule : Rule := .echo

/-- The metadata of a tool with the given parameters, each with a type or without. -/
def SmallTool.metadataOf (name : String) (params : List (String × Option String)) : Value :=
  .record [("name", .str name), ("properties", .record (params.map fun (p, type) ↦
    (p, match type with
      | some t => .record [("type", .str t)]
      | none => .map [])))]

/-- How a toolbox looks up its tools. -/
inductive LookUp where
  /-- By the registry that a listing fills. -/
  | registry
  /-- Straight from the metadata, null for an unknown name. -/
  | direct
  /-- By a registry that no listing fills. -/
  | unfilled
  deriving DecidableEq, Repr

/-- A list of small tools; of two with one name the later counts. -/
structure Toolbox where
  tools : List SmallTool
  lookUp : LookUp := .registry

namespace Toolbox

/-- The tool of a name. -/
def find? (b : Toolbox) (name : String) : Option SmallTool := b.tools.reverse.find? (·.name = name)

/-- The registry that a listing fills. -/
def registry (b : Toolbox) : Registry Value :=
  Registry.ofList (b.tools.map fun t ↦ (t.name, t.metadata))

/-- Lists the tools. -/
def list (b : Toolbox) : Attempt (Option (Registry Value)) Fault (List Value) := fun s ↦
  (.ok (b.tools.map (·.metadata)), if b.lookUp = .registry then some b.registry else s)

/-- The provider of a toolbox; its state is its registry. -/
def provider (b : Toolbox) : Provider (Option (Registry Value)) where
  list := b.list
  define name := match b.lookUp with
    | .direct => fun s ↦ (.ok ((b.find? name).elim .null (·.metadata)), s)
    | _ => CallTree.lookUp id b.list name
  invoke name args := fun s ↦
    match b.find? name with
    | some t => (t.rule.apply name args, s)
    | none => (.error .noSuchKey, s)

end Toolbox

end CallTree
