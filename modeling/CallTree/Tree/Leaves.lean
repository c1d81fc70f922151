import CallTree.Tree.Basic

/-!
# The leaves of a tree

The leaves of a tree in the order in which a visit meets them, and the tree with its leaves changed
by what a list holds for them in that order.
-/

namespace CallTree.Node

variable {α β : Type}

/-- The name and the literal of a leaf. -/
def leaf? : Node α → Option (String × α)
  | .value name literal => some (name, literal)
  | _ => none

/-- The leaves of a tree, in the order of a visit. -/
def leaves (t : Node α) : List (String × α) := t.nodes.filterMap leaf?

/-- The leaves of the trees in a list. -/
def leavesAll (ts : List (Node α)) : List (String × α) := (nodesAll ts).filterMap leaf?

mutual

/-- The tree with its leaves changed by the members of a list, in order, and the members that are
left over; leaves beyond the list stay as they are. -/
def zipLeaves (f : β → String × α → String × α) : Node α → List β → Node α × List β
  | .value name literal, b :: bs =>
    let l := f b (name, literal)
    (.value l.1 l.2, bs)
  | .value name literal, [] => (.value name literal, [])
  | .call tool args, bs =>
    let (args, bs) := zipLeavesAll f args bs
    (.call tool args, bs)
  | .program heading body, bs =>
    let (body, bs) := zipLeavesAll f body bs
    (.program heading body, bs)
  | .cond test yes none, bs =>
    let (test, bs) := zipLeaves f test bs
    let (yes, bs) := zipLeaves f yes bs
    (.cond test yes none, bs)
  | .cond test yes (some no), bs =>
    let (test, bs) := zipLeaves f test bs
    let (yes, bs) := zipLeaves f yes bs
    let (no, bs) := zipLeaves f no bs
    (.cond test yes (some no), bs)
  | .lambda params tool args, bs =>
    let (args, bs) := zipLeavesAll f args bs
    (.lambda params tool args, bs)
  | .over op params tool args items, bs =>
    let (args, bs) := zipLeavesAll f args bs
    let (items, bs) := zipLeaves f items bs
    (.over op params tool args items, bs)
  | .bare, bs => (.bare, bs)

/-- The trees of a list with their leaves changed by the members of a list, in order. -/
def zipLeavesAll (f : β → String × α → String × α) :
    List (Node α) → List β → List (Node α) × List β
  | [], bs => ([], bs)
  | t :: ts, bs =>
    let (t, bs) := zipLeaves f t bs
    let (ts, bs) := zipLeavesAll f ts bs
    (t :: ts, bs)

end

end CallTree.Node
