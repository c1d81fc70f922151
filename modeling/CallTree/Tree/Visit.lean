import CallTree.Tree.Basic

/-!
# Visiting the nodes of a tree

A visitor carries a state and may stop the visit at any node. The visit applies it to each node
before the node's descendants (`visit`).

What is to be done at a node may take time: calling it does only a part, and the rest is done by
waiting for what the call gives. `visitWaiting` waits at each node if the procedure is declared to
be one of this kind. If it is not, the visit calls it at each node and waits for nothing.
-/

namespace CallTree

variable {α σ ε : Type}

/-- What a visitor does at a node. -/
abbrev Visitor (α σ ε : Type) := Node α → σ → Except ε Unit × σ

/-- One visit, and then another unless it was stopped. -/
def thenVisit (x y : σ → Except ε Unit × σ) : σ → Except ε Unit × σ := fun s ↦
  match x s with
  | (.ok (), s) => y s
  | (.error e, s) => (.error e, s)

mutual

/-- Visits a node and then its descendants. -/
def visit (f : Visitor α σ ε) : Node α → σ → Except ε Unit × σ
  | .value name literal => f (.value name literal)
  | .call tool args => thenVisit (f (.call tool args)) (visitAll f args)
  | .program heading body => thenVisit (f (.program heading body)) (visitAll f body)
  | .cond test yes none =>
    thenVisit (f (.cond test yes none)) (thenVisit (visit f test) (visit f yes))
  | .cond test yes (some no) =>
    thenVisit (f (.cond test yes (some no)))
      (thenVisit (visit f test) (thenVisit (visit f yes) (visit f no)))
  | .lambda params tool args =>
    thenVisit (f (.lambda params tool args))
      (thenVisit (f (.call tool args)) (visitAll f args))
  | .over op params tool args items =>
    thenVisit (f (.over op params tool args items))
      (thenVisit (f (.lambda params tool args))
        (thenVisit (f (.call tool args))
          (thenVisit (visitAll f args) (visit f items))))
  | .bare => f .bare

/-- Visits the trees of a list in order. -/
def visitAll (f : Visitor α σ ε) : List (Node α) → σ → Except ε Unit × σ
  | [] => fun s ↦ (.ok (), s)
  | t :: ts => thenVisit (visit f t) (visitAll f ts)

end

/-- A visitor that does nothing. -/
def idle : Visitor α σ ε := fun _ s ↦ (.ok (), s)

/-- A procedure on nodes that may have to be waited for. -/
structure Procedure (α σ ε : Type) where
  /-- Whether it is declared as one to wait for. -/
  declared : Bool
  /-- What calling it does. -/
  call : Visitor α σ ε
  /-- What waiting for it does after that. -/
  rest : Visitor α σ ε

namespace Procedure

/-- The procedure that does all at once. -/
def plain (f : Visitor α σ ε) : Procedure α σ ε := ⟨false, f, idle⟩

/-- Calls the procedure on a node and waits for it. -/
def await (op : Procedure α σ ε) : Visitor α σ ε := fun n ↦ thenVisit (op.call n) (op.rest n)

/-- Waits for the procedure at a node and then goes on below it. A procedure that is not declared
as one to wait for is called on the node and all below it instead. -/
def enter (op : Procedure α σ ε) (n : Node α) (below : σ → Except ε Unit × σ) :
    σ → Except ε Unit × σ :=
  if op.declared then thenVisit (op.await n) below else visit op.call n

end Procedure

mutual

/-- Visits a node and then its descendants with a procedure that may have to be waited for. -/
def visitWaiting (op : Procedure α σ ε) : Node α → σ → Except ε Unit × σ
  | .value name literal => op.enter (.value name literal) fun s ↦ (.ok (), s)
  | .call tool args => op.enter (.call tool args) (visitAllWaiting op args)
  | .program heading body => op.enter (.program heading body) (visitAllWaiting op body)
  | .cond test yes none =>
    op.enter (.cond test yes none) (thenVisit (visitWaiting op test) (visitWaiting op yes))
  | .cond test yes (some no) =>
    op.enter (.cond test yes (some no))
      (thenVisit (visitWaiting op test) (thenVisit (visitWaiting op yes) (visitWaiting op no)))
  | .lambda params tool args =>
    op.enter (.lambda params tool args) (op.enter (.call tool args) (visitAllWaiting op args))
  | .over o params tool args items =>
    op.enter (.over o params tool args items)
      (thenVisit
        (op.enter (.lambda params tool args) (op.enter (.call tool args) (visitAllWaiting op args)))
        (visitWaiting op items))
  | .bare => op.enter .bare fun s ↦ (.ok (), s)

/-- Visits the trees of a list in order with a procedure that may have to be waited for. -/
def visitAllWaiting (op : Procedure α σ ε) : List (Node α) → σ → Except ε Unit × σ
  | [] => fun s ↦ (.ok (), s)
  | t :: ts => thenVisit (visitWaiting op t) (visitAllWaiting op ts)

end

end CallTree
