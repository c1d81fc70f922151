/-!
# Programs as trees

A program is a tree whose inner nodes call tools, choose a branch or work through a list, and whose
leaves are named values. The literals at the leaves are of a type `α`, so that the shape of a tree
is described without saying what values are; a value may then hold a tree in turn.

The body of a lambda is always one tool call. So a lambda is its parameters together with the tool
and the arguments of that call, and the function of a list operation is given the same way.
-/

namespace CallTree

/-- Whether a program solves one problem or several independent ones. -/
inductive Mode where
  | single
  | parallel
  deriving DecidableEq, Repr

/-- The operations that work through a list with a lambda. -/
inductive ListOp where
  | map
  | filter
  | reduce
  deriving DecidableEq, Repr

/-- The name of a list operation in messages. -/
def ListOp.title : ListOp → String
  | .map => "Map"
  | .filter => "Filter"
  | .reduce => "Reduce"

/-- What a program says about itself. -/
structure Heading where
  mode : Mode
  name : Option String := none
  description : Option String := none
  deriving DecidableEq, Repr

/-- A node of a program tree. -/
inductive Node (α : Type) where
  /-- A leaf: the value bound to `name`, or the literal where the name is not bound. -/
  | value (name : String) (literal : α)
  /-- A call of a tool with positional arguments. -/
  | call (tool : String) (args : List (Node α))
  /-- A sequence of nodes. -/
  | program (heading : Heading) (body : List (Node α))
  /-- A choice; without a second branch the other outcome is null. -/
  | cond (test yes : Node α) (no : Option (Node α))
  /-- A function of `params` that calls a tool. -/
  | lambda (params : List String) (tool : String) (args : List (Node α))
  /-- A list operation: the lambda of `params`, `tool` and `args` over the list `items`. -/
  | over (op : ListOp) (params : List String) (tool : String) (args : List (Node α))
      (items : Node α)
  /-- A node of no particular kind, which nothing can run. -/
  | bare

namespace Node

variable {α : Type}

/-- The nodes right below a node, in the order of its fields. -/
def children : Node α → List (Node α)
  | .value _ _ => []
  | .call _ args => args
  | .program _ body => body
  | .cond test yes no => test :: yes :: no.toList
  | .lambda _ tool args => [.call tool args]
  | .over _ params tool args items => [.lambda params tool args, items]
  | .bare => []

mutual

/-- All nodes of a tree: each node before its descendants, siblings in the order of the fields. -/
def nodes : Node α → List (Node α)
  | .value name literal => [.value name literal]
  | .call tool args => .call tool args :: nodesAll args
  | .program heading body => .program heading body :: nodesAll body
  | .cond test yes none => .cond test yes none :: (test.nodes ++ yes.nodes)
  | .cond test yes (some no) => .cond test yes (some no) :: (test.nodes ++ yes.nodes ++ no.nodes)
  | .lambda params tool args => .lambda params tool args :: .call tool args :: nodesAll args
  | .over op params tool args items =>
    .over op params tool args items :: .lambda params tool args :: .call tool args ::
      (nodesAll args ++ items.nodes)
  | .bare => [.bare]

/-- All nodes of the trees in a list. -/
def nodesAll : List (Node α) → List (Node α)
  | [] => []
  | n :: ns => n.nodes ++ nodesAll ns

end

/-- A node's name, of the kinds of nodes that have one. -/
def name? : Node α → Option String
  | .value name _ => some name
  | .call tool _ => some tool
  | .program heading _ => heading.name
  | _ => none

/-- The word for the kind of a node. -/
def kind : Node α → String
  | .value _ _ => "value"
  | .call _ _ => "function"
  | .program _ _ => "program"
  | .cond _ _ _ => "conditional"
  | .lambda _ _ _ => "lambda"
  | .over .map _ _ _ _ => "map"
  | .over .filter _ _ _ _ => "filter"
  | .over .reduce _ _ _ _ => "reduce"
  | .bare => "node"

/-- Whether a node is a program. -/
def isProgram : Node α → Bool
  | .program _ _ => true
  | _ => false

/-- Whether a node is of no particular kind. -/
def isBare : Node α → Bool
  | .bare => true
  | _ => false

end Node

end CallTree
