import Mathlib
import CallTree.Eval.Basic
import CallTree.Tree.Check
import CallTree.Tree.Leaves

/-!
# The nodes of a tree

`Node.nodes` lists a tree in the order of a visit. The evaluator, the check and the search for the
placeholder of a reduce all recurse on the tree by themselves; this file says what each of them has
to do with that list, so that what follows can speak of the nodes of a tree and not of recursions.

## Induction

A node holds lists of nodes and optional nodes, so the recursor that comes with the type has three
motives. `Node.induct` has one: what is to be shown may be assumed of every member of a list below.
-/

namespace CallTree

namespace Node

variable {α : Type}

/-- Induction over trees, with the hypothesis at hand for every member of the lists below a
node. -/
@[elab_as_elim]
theorem induct {P : Node α → Prop} (value : ∀ name literal, P (.value name literal))
    (call : ∀ tool args, (∀ t ∈ args, P t) → P (.call tool args))
    (program : ∀ heading body, (∀ t ∈ body, P t) → P (.program heading body))
    (cond : ∀ test yes, P test → P yes → P (.cond test yes none))
    (condElse : ∀ test yes no, P test → P yes → P no → P (.cond test yes (some no)))
    (lambda : ∀ params tool args, (∀ t ∈ args, P t) → P (.lambda params tool args))
    (listOp : ∀ op params tool args items, (∀ t ∈ args, P t) → P items →
      P (.over op params tool args items))
    (bare : P .bare) (t : Node α) : P t :=
  @Node.rec α P (fun ts ↦ ∀ t ∈ ts, P t) (fun o ↦ ∀ t ∈ o, P t) value call program
    (fun test yes no ht hy hn ↦ match no, hn with
      | none, _ => cond test yes ht hy
      | some no, hn => condElse test yes no ht hy (hn no rfl))
    lambda listOp bare (fun _ h ↦ absurd h List.not_mem_nil)
    (fun _ _ hh ht t h ↦ (List.mem_cons.mp h).elim (fun e ↦ e ▸ hh) (ht t))
    (fun _ h ↦ nomatch h) (fun _ h _ e ↦ Option.mem_some.mp e ▸ h) t

/-! ## Membership -/

theorem nodesAll_eq_flatMap (ts : List (Node α)) : nodesAll ts = ts.flatMap nodes := by
  induction ts with
  | nil => rfl
  | cons t ts ih => rw [nodesAll, ih, List.flatMap_cons]

theorem mem_nodesAll {n : Node α} {ts : List (Node α)} :
    n ∈ nodesAll ts ↔ ∃ t ∈ ts, n ∈ t.nodes := by
  rw [nodesAll_eq_flatMap, List.mem_flatMap]

theorem mem_nodesAll_of_mem {n t : Node α} {ts : List (Node α)} (ht : t ∈ ts)
    (hn : n ∈ t.nodes) : n ∈ nodesAll ts := mem_nodesAll.mpr ⟨t, ht, hn⟩

theorem self_mem_nodes (t : Node α) : t ∈ t.nodes := by
  cases t with
  | cond test yes no => cases no <;> simp [nodes]
  | _ => simp [nodes]

/-- A visit of a tree is a visit of its root and then of the trees right below it. -/
theorem nodes_eq_cons (t : Node α) : t.nodes = t :: nodesAll t.children := by
  cases t with
  | cond test yes no => cases no <;> simp [nodes, children, nodesAll]
  | _ => simp [nodes, children, nodesAll]

/-- Induction over trees by way of the trees right below. -/
theorem induct_children {P : Node α → Prop} (h : ∀ t, (∀ c ∈ t.children, P c) → P t)
    (t : Node α) : P t := by
  induction t using Node.induct with
  | value name literal => exact h _ (by simp [children])
  | call tool args ih => exact h _ ih
  | program heading body ih => exact h _ ih
  | cond test yes iht ihy => exact h _ (by simp [children, iht, ihy])
  | condElse test yes no iht ihy ihn => exact h _ (by simp [children, iht, ihy, ihn])
  | lambda params tool args ih =>
    -- right below a lambda stands the call that is its body, of which no hypothesis speaks
    have hcall : P (.call tool args) := h _ ih
    exact h _ (by simpa [children] using hcall)
  | listOp op params tool args items ih ihi =>
    have hcall : P (.call tool args) := h _ ih
    have hlambda : P (.lambda params tool args) := h _ (by simpa [children] using hcall)
    exact h _ (by simp [children, hlambda, ihi])
  | bare => exact h _ (by simp [children])

/-- The nodes of a node of a tree are nodes of the tree. -/
theorem nodes_trans {n m t : Node α} (hn : n ∈ t.nodes) (hm : m ∈ n.nodes) : m ∈ t.nodes := by
  induction t using Node.induct_children with
  | h t ih =>
    rw [nodes_eq_cons, List.mem_cons] at hn
    obtain rfl | hn := hn
    · exact hm
    · obtain ⟨c, hc, hn⟩ := mem_nodesAll.mp hn
      rw [nodes_eq_cons]
      exact List.mem_cons_of_mem _ (mem_nodesAll_of_mem hc (ih c hc hn))

/-- Something holds of all nodes of a tree when it holds of the root and of all nodes below. -/
theorem forall_mem_nodes_iff {P : Node α → Prop} {t : Node α} :
    (∀ n ∈ t.nodes, P n) ↔ P t ∧ ∀ c ∈ t.children, ∀ n ∈ c.nodes, P n := by
  rw [nodes_eq_cons, List.forall_mem_cons]
  refine and_congr_right fun _ ↦ ?_
  constructor
  · intro h c hc n hn
    exact h n (mem_nodesAll_of_mem hc hn)
  · intro h n hn
    obtain ⟨c, hc, hn⟩ := mem_nodesAll.mp hn
    exact h c hc n hn

theorem nodesAll_append (ts us : List (Node α)) :
    nodesAll (ts ++ us) = nodesAll ts ++ nodesAll us := by
  rw [nodesAll_eq_flatMap, nodesAll_eq_flatMap, nodesAll_eq_flatMap, List.flatMap_append]

end Node

/-! ## The leaves that a lambda binds are leaves of its body

The check looks for placeholders only outside nested lambdas and programs, the evaluator everywhere
below the body. What the one finds the other finds too. -/

theorem boundLeavesAll_eq_flatMap (ts : List Tree) :
    boundLeavesAll ts = ts.flatMap boundLeaves := by
  induction ts with
  | nil => rfl
  | cons t ts ih => rw [boundLeavesAll, ih, List.flatMap_cons]

theorem value_mem_nodes_of_mem_boundLeaves {l : String × Value} {t : Tree} :
    l ∈ boundLeaves t → .value l.1 l.2 ∈ t.nodes := by
  induction t using Node.induct with
  | value name literal =>
    intro h
    rw [boundLeaves, List.mem_singleton] at h
    rw [h]
    exact Node.self_mem_nodes _
  | call tool args ih =>
    intro h
    rw [boundLeaves, boundLeavesAll_eq_flatMap, List.mem_flatMap] at h
    obtain ⟨t, ht, hl⟩ := h
    exact List.mem_cons_of_mem _ (Node.mem_nodesAll_of_mem ht (ih t ht hl))
  | program heading body ih => intro h; rw [boundLeaves] at h; exact absurd h List.not_mem_nil
  | cond test yes iht ihy =>
    intro h
    rw [boundLeaves, List.mem_append] at h
    rw [Node.nodes, List.mem_cons, List.mem_append]
    exact Or.inr (h.imp iht ihy)
  | condElse test yes no iht ihy ihn =>
    intro h
    rw [boundLeaves, List.mem_append, List.mem_append] at h
    rw [Node.nodes, List.mem_cons, List.mem_append, List.mem_append]
    exact Or.inr (h.imp (Or.imp iht ihy) ihn)
  | lambda params tool args ih => intro h; rw [boundLeaves] at h; exact absurd h List.not_mem_nil
  | listOp op params tool args items ih ihi =>
    intro h
    -- the check does not look into a nested lambda, so the leaf is one of the items
    rw [boundLeaves] at h
    simp only [Node.nodes, List.mem_cons, List.mem_append]
    exact Or.inr (Or.inr (Or.inr (Or.inr (ihi h))))
  | bare => intro h; rw [boundLeaves] at h; exact absurd h List.not_mem_nil

theorem value_mem_nodesAll_of_mem_boundLeavesAll {l : String × Value} {ts : List Tree}
    (h : l ∈ boundLeavesAll ts) : .value l.1 l.2 ∈ Node.nodesAll ts := by
  rw [boundLeavesAll_eq_flatMap, List.mem_flatMap] at h
  obtain ⟨t, ht, hl⟩ := h
  exact Node.mem_nodesAll_of_mem ht (value_mem_nodes_of_mem_boundLeaves hl)

/-! ## The first leaf of a name -/

theorem firstLeaf?_isSome_of_mem {name : String} {literal : Value} {ns : List Tree}
    (h : .value name literal ∈ ns) : (firstLeaf? name ns).isSome := by
  rw [firstLeaf?, List.findSome?_isSome_iff]
  exact ⟨.value name literal, h, by simp⟩

theorem firstLeaf?_append (name : String) (ns ms : List Tree) :
    firstLeaf? name (ns ++ ms) = (firstLeaf? name ns).or (firstLeaf? name ms) :=
  List.findSome?_append

/-- A node that is no leaf itself has the first leaf of the trees right below it. -/
theorem firstLeaf?_nodes_eq {t : Tree} (ht : t.leaf? = none) (name : String) :
    firstLeaf? name t.nodes = firstLeaf? name (Node.nodesAll t.children) := by
  rw [Node.nodes_eq_cons, firstLeaf?, List.findSome?_cons]
  cases t with
  | value name literal => exact nomatch ht
  | _ => rfl

theorem firstLeaf?_lambda (name : String) (params : List String) (tool : String)
    (args : List Tree) : firstLeaf? name (Node.lambda params tool args).nodes =
      firstLeaf? name (Node.nodesAll args) := rfl

theorem firstLeaf?_nodesAll_cons (name : String) (t : Tree) (ts : List Tree) :
    firstLeaf? name (Node.nodesAll (t :: ts)) =
      (firstLeaf? name t.nodes).or (firstLeaf? name (Node.nodesAll ts)) := by
  rw [Node.nodesAll, firstLeaf?_append]

/-- The first leaf is found tree by tree, so trees can be exchanged for others with the same. -/
theorem firstLeaf?_nodesAll_map {name : String} {ts : List Tree} {f : Tree → Tree}
    (h : ∀ t ∈ ts, firstLeaf? name (f t).nodes = firstLeaf? name t.nodes) :
    firstLeaf? name (Node.nodesAll (ts.map f)) = firstLeaf? name (Node.nodesAll ts) := by
  induction ts with
  | nil => rfl
  | cons t ts ih =>
    obtain ⟨ht, hts⟩ := List.forall_mem_cons.mp h
    rw [List.map_cons, firstLeaf?_nodesAll_cons, firstLeaf?_nodesAll_cons, ht, ih hts]

/-! ## The check as a walk over the nodes -/

/-- The rule that a node has to keep by itself. -/
def checkNode (known : Signatures) : Tree → Except Reason Unit
  | .call tool args => checkCall known tool args.length
  | .lambda params _ args => checkLambda params (boundLeavesAll args)
  | .over op params _ _ _ => checkOver op params
  | _ => .ok ()

private theorem checkAll_eq_forM {known : Signatures} {ts : List Tree}
    (h : ∀ t ∈ ts, check known t = t.nodes.forM (checkNode known)) :
    checkAll known ts = (Node.nodesAll ts).forM (checkNode known) := by
  induction ts with
  | nil => rfl
  | cons t ts ih =>
    rw [checkAll, Node.nodesAll, List.forM_eq_forM, List.forM_append, h t List.mem_cons_self,
      ih fun u hu ↦ h u (List.mem_cons_of_mem _ hu)]
    rfl

/-- The check goes through the nodes in the order of a visit and stops at the first one that
breaks its rule. -/
theorem check_eq_forM (known : Signatures) (t : Tree) :
    check known t = t.nodes.forM (checkNode known) := by
  induction t using Node.induct with
  | value name literal => rfl
  | call tool args ih =>
    rw [check, checkAll_eq_forM ih]
    rfl
  | program heading body ih =>
    rw [check, checkAll_eq_forM ih]
    rfl
  | cond test yes iht ihy =>
    rw [check, iht, ihy, Node.nodes, List.forM_eq_forM, List.forM_cons, List.forM_append]
    rfl
  | condElse test yes no iht ihy ihn =>
    -- the check nests its three parts to the right, the list of nodes to the left
    rw [check, iht, ihy, ihn, Node.nodes, List.forM_eq_forM, List.forM_cons, List.forM_append,
      List.forM_append, bind_assoc]
    rfl
  | lambda params tool args ih =>
    rw [check, checkAll_eq_forM ih]
    rfl
  | listOp op params tool args items ih ihi =>
    rw [check, checkAll_eq_forM ih, ihi, Node.nodes]
    simp only [List.forM_eq_forM, List.forM_cons, List.forM_append]
    rfl
  | bare => rfl

private theorem forM_eq_ok_iff {ι ε : Type} {f : ι → Except ε Unit} {xs : List ι} :
    xs.forM f = .ok () ↔ ∀ x ∈ xs, f x = .ok () := by
  induction xs with
  | nil => exact ⟨fun _ _ h ↦ absurd h List.not_mem_nil, fun _ ↦ rfl⟩
  | cons x xs ih =>
    rw [List.forM_eq_forM, List.forM_cons, List.forall_mem_cons, ← ih]
    cases h : f x with
    | ok u => exact ⟨fun h' ↦ ⟨rfl, h'⟩, fun h' ↦ h'.2⟩
    | error e =>
      constructor
      · intro h'
        exact nomatch h'
      · intro h'
        exact nomatch h'.1

/-- A tree passes the check exactly when each of its nodes keeps its own rule. -/
theorem check_eq_ok_iff {known : Signatures} {t : Tree} :
    check known t = .ok () ↔ ∀ n ∈ t.nodes, checkNode known n = .ok () := by
  rw [check_eq_forM, forM_eq_ok_iff]

end CallTree
