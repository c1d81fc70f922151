import CallTree.Eval.Context
import CallTree.Proofs.Collecting
import CallTree.Proofs.Names

/-!
# Contexts

A context binds values to names and to single leaves. With no leaf bound, evaluation in a context is
evaluation in its names (`evalIn_eq_eval`). With a value bound to every leaf of a program without
lambdas, it is evaluation of the program in which the literals of the leaves are replaced by those
values, with no names bound (`evalIn_eq_eval_replaceLiterals`).

Replacing literals is a walk that takes something from a list at each leaf. What is left of the list
after a part of the tree is known from the number of leaves in that part, and the same number takes
the evaluation from the first leaf of one part to the first leaf of the next.
-/

namespace CallTree

namespace Node

variable {α β : Type}

/-- The tree with the literals of its leaves taken from a list, in order. -/
def replaceLiterals (t : Node α) (literals : List α) : Node α :=
  (t.zipLeaves (fun literal l ↦ (l.1, literal)) literals).1

theorem leavesAll_cons (t : Node α) (ts : List (Node α)) :
    leavesAll (t :: ts) = t.leaves ++ leavesAll ts := by
  rw [leavesAll, nodesAll, List.filterMap_append, leaves, leavesAll]

theorem leavesAll_nil : leavesAll ([] : List (Node α)) = [] := rfl

/-- A node that is no leaf itself has the leaves of the trees right below it. -/
theorem leaves_eq_leavesAll {t : Node α} (h : t.leaf? = none) :
    t.leaves = leavesAll t.children := by
  rw [leaves, nodes_eq_cons, List.filterMap_cons_none h, leavesAll]

theorem leaves_cond (test yes : Node α) :
    (cond test yes none).leaves = test.leaves ++ yes.leaves := by
  simp only [leaves_eq_leavesAll (t := cond test yes none) rfl, children, Option.toList_none,
    leavesAll_cons, leavesAll_nil, List.append_nil]

theorem leaves_condElse (test yes no : Node α) :
    (cond test yes (some no)).leaves = test.leaves ++ (yes.leaves ++ no.leaves) := by
  simp only [leaves_eq_leavesAll (t := cond test yes (some no)) rfl, children, Option.toList_some,
    leavesAll_cons, leavesAll_nil, List.append_nil]

theorem leaves_over (op : ListOp) (params : List String) (tool : String) (args : List (Node α))
    (items : Node α) :
    (Node.over op params tool args items).leaves = leavesAll args ++ items.leaves := by
  have hlambda : (lambda params tool args).leaves = leavesAll args := rfl
  simp only [leaves_eq_leavesAll (t := Node.over op params tool args items) rfl, children,
    leavesAll_cons, leavesAll_nil, List.append_nil, hlambda]

/-! ## What is left of the list -/

section

variable {f : β → String × α → String × α}

private theorem snd_zipLeavesAll_of {ts : List (Node α)}
    (h : ∀ t ∈ ts, ∀ bs : List β, (t.zipLeaves f bs).2 = bs.drop t.leaves.length) (bs : List β) :
    (zipLeavesAll f ts bs).2 = bs.drop (leavesAll ts).length := by
  induction ts generalizing bs with
  | nil => rfl
  | cons t ts ih =>
    obtain ⟨ht, hts⟩ := List.forall_mem_cons.mp h
    rw [zipLeavesAll, leavesAll_cons, List.length_append, ← List.drop_drop, ← ht, ← ih hts]

theorem snd_zipLeaves (t : Node α) (bs : List β) :
    (t.zipLeaves f bs).2 = bs.drop t.leaves.length := by
  induction t using Node.induct generalizing bs with
  | value name literal => cases bs <;> rfl
  | call tool args ih => exact snd_zipLeavesAll_of ih bs
  | program heading body ih => exact snd_zipLeavesAll_of ih bs
  | cond test yes iht ihy =>
    rw [zipLeaves, leaves_cond, List.length_append, ← List.drop_drop, ← iht, ← ihy]
  | condElse test yes no iht ihy ihn =>
    rw [zipLeaves, leaves_condElse, List.length_append, List.length_append, ← List.drop_drop,
      ← List.drop_drop, ← iht, ← ihy, ← ihn]
  | lambda params tool args ih => exact snd_zipLeavesAll_of ih bs
  | listOp op params tool args items ih ihi =>
    rw [zipLeaves, leaves_over, List.length_append, ← List.drop_drop, ← snd_zipLeavesAll_of ih,
      ← ihi]
  | bare => rfl

theorem snd_zipLeavesAll (ts : List (Node α)) (bs : List β) :
    (zipLeavesAll f ts bs).2 = bs.drop (leavesAll ts).length :=
  snd_zipLeavesAll_of (fun t _ ↦ snd_zipLeaves t) bs

theorem length_zipLeavesAll (ts : List (Node α)) (bs : List β) :
    (zipLeavesAll f ts bs).1.length = ts.length := by
  induction ts generalizing bs with
  | nil => rfl
  | cons t ts ih => exact congrArg (· + 1) (ih _)

end

/-! ## The leaves' own literals -/

private theorem fst_zipLeavesAll_literals {ts : List (Node α)}
    (h : ∀ t ∈ ts, ∀ rest : List α,
      (t.zipLeaves (fun v l ↦ (l.1, v)) (t.leaves.map Prod.snd ++ rest)).1 = t) (rest : List α) :
    (zipLeavesAll (fun v l ↦ (l.1, v)) ts ((leavesAll ts).map Prod.snd ++ rest)).1 = ts := by
  induction ts generalizing rest with
  | nil => rfl
  | cons t ts ih =>
    obtain ⟨ht, hts⟩ := List.forall_mem_cons.mp h
    rw [leavesAll_cons, List.map_append, List.append_assoc, zipLeavesAll]
    simp only [ht, snd_zipLeaves]
    rw [List.drop_left' (List.length_map _), ih hts]

private theorem fst_zipLeaves_literals (t : Node α) (rest : List α) :
    (t.zipLeaves (fun v l ↦ (l.1, v)) (t.leaves.map Prod.snd ++ rest)).1 = t := by
  induction t using Node.induct generalizing rest with
  | value name literal => rfl
  | call tool args ih => exact congrArg (call tool) (fst_zipLeavesAll_literals ih rest)
  | program heading body ih => exact congrArg (program heading) (fst_zipLeavesAll_literals ih rest)
  | cond test yes iht ihy =>
    rw [leaves_cond, List.map_append, List.append_assoc, zipLeaves]
    simp only [iht, snd_zipLeaves]
    rw [List.drop_left' (List.length_map _), ihy]
  | condElse test yes no iht ihy ihn =>
    rw [leaves_condElse, List.map_append, List.map_append, List.append_assoc, List.append_assoc,
      zipLeaves]
    simp only [iht, snd_zipLeaves]
    rw [List.drop_left' (List.length_map _), ihy, List.drop_left' (List.length_map _), ihn]
  | lambda params tool args ih =>
    exact congrArg (lambda params tool) (fst_zipLeavesAll_literals ih rest)
  | listOp op params tool args items ih ihi =>
    rw [leaves_over, List.map_append, List.append_assoc, zipLeaves]
    simp only [fst_zipLeavesAll_literals ih, snd_zipLeavesAll]
    rw [List.drop_left' (List.length_map _), ihi]
  | bare => rfl

/-- Replacing the literals by themselves changes nothing. -/
theorem replaceLiterals_literals (t : Node α) : t.replaceLiterals (t.leaves.map Prod.snd) = t := by
  have h := fst_zipLeaves_literals t []
  rwa [List.append_nil] at h

end Node

/-! ## No leaf bound -/

section

variable {σ : Type} {p : Provider σ}

theorem Context.valueFor_of_unbound {c : Context} {i : ℕ} (h : c.leaves i = none) (name : String)
    (literal : Value) : c.valueFor i name literal = leafValue c.names name literal := by
  rw [valueFor, h, Option.getD_none]

theorem Context.placeholder?_of_unbound {c : Context} (h : ∀ i, c.leaves i = none) (name : String)
    (i : ℕ) (ns : List Tree) :
    c.placeholder? name i ns = CallTree.placeholder? c.names ns name := by
  induction ns generalizing i with
  | nil => rfl
  | cons n ns ih =>
    cases n with
    | value n literal =>
      by_cases hn : n = name
      · simp [placeholder?, CallTree.placeholder?, firstLeaf?, hn, valueFor_of_unbound (h i)]
      · have hskip : CallTree.placeholder? c.names (.value n literal :: ns) name =
            CallTree.placeholder? c.names ns name := by
          simp [CallTree.placeholder?, firstLeaf?, hn]
        rw [placeholder?, if_neg hn, hskip]
        exact ih (i + 1)
    | _ => exact ih i

private theorem evalAllIn_eq_of {c : Context} {ts : List Tree}
    (h : ∀ t ∈ ts, ∀ i, evalIn p c i t = eval p c.names t) (i : ℕ) :
    evalAllIn p c i ts = evalAll p c.names ts := by
  induction ts generalizing i with
  | nil => rfl
  | cons t ts ih =>
    obtain ⟨ht, hts⟩ := List.forall_mem_cons.mp h
    rw [evalAllIn, evalAll, ht, ih hts]

/-- **Names only.** Where no leaf is bound, a tree is evaluated in the names of the context. -/
theorem evalIn_eq_eval (t : Tree) {c : Context} (hc : ∀ i, c.leaves i = none) (i : ℕ) :
    evalIn p c i t = eval p c.names t := by
  induction t using Node.induct generalizing c i with
  | value name literal => rw [evalIn, eval, c.valueFor_of_unbound (hc i)]
  | call tool args ih => rw [evalIn, eval, evalAllIn_eq_of fun t ht ↦ ih t ht hc]
  | program heading body ih => rw [evalIn, eval, evalAllIn_eq_of fun t ht ↦ ih t ht hc]
  | cond test yes iht ihy => simp only [evalIn, eval, iht hc, ihy hc]
  | condElse test yes no iht ihy ihn => simp only [evalIn, eval, iht hc, ihy hc, ihn hc]
  | lambda params tool args ih => rfl
  | listOp op params tool args items ih ihi =>
    have hbody (names : Bindings) :
        evalAllIn p { c with names } i args = evalAll p names args :=
      evalAllIn_eq_of (c := { c with names }) (fun t ht ↦ ih t ht hc) i
    have hstart : (fun name ↦ c.placeholder? name i (Node.nodesAll args)) =
        placeholder? c.names (Node.nodesAll args) :=
      funext fun name ↦ c.placeholder?_of_unbound hc name i _
    simp only [evalIn, eval, ihi hc, hbody, hstart]
  | bare => rfl

/-! ## All leaves bound -/

/-- The leaves from number `i` on are bound to the values of a list, in order. -/
def Context.Binds (c : Context) (i : ℕ) (vs : List Value) : Prop :=
  ∀ k < vs.length, c.leaves (i + k) = vs[k]?

theorem Context.Binds.drop {c : Context} {i : ℕ} {vs : List Value} (h : c.Binds i vs) (n : ℕ) :
    c.Binds (i + n) (vs.drop n) := by
  intro k hk
  rw [List.length_drop] at hk
  rw [List.getElem?_drop, Nat.add_assoc]
  exact h (n + k) (by omega)

private theorem evalAllIn_eq_zipLeavesAll_of {c : Context} {ts : List Tree}
    (h : ∀ t ∈ ts, ∀ {i : ℕ} {vs : List Value}, c.Binds i vs → t.leaves.length ≤ vs.length →
      evalIn p c i t = eval p [] (t.zipLeaves (fun v l ↦ (l.1, v)) vs).1)
    {i : ℕ} {vs : List Value} (hvs : c.Binds i vs)
    (hlen : (Node.leavesAll ts).length ≤ vs.length) :
    evalAllIn p c i ts = evalAll p [] (Node.zipLeavesAll (fun v l ↦ (l.1, v)) ts vs).1 := by
  induction ts generalizing i vs with
  | nil => rfl
  | cons t ts ih =>
    obtain ⟨ht, hts⟩ := List.forall_mem_cons.mp h
    rw [Node.leavesAll_cons, List.length_append] at hlen
    have hrest := hvs.drop t.leaves.length
    simp only [Node.zipLeavesAll, evalAllIn, evalAll, Node.snd_zipLeaves]
    rw [ht hvs (by omega), ih hts hrest (by rw [List.length_drop]; omega)]

theorem evalIn_eq_eval_zipLeaves {c : Context} {t : Tree} (ht : ∀ n ∈ t.nodes, n.IsFirstOrder)
    {i : ℕ} {vs : List Value} (hvs : c.Binds i vs) (hlen : t.leaves.length ≤ vs.length) :
    evalIn p c i t = eval p [] (t.zipLeaves (fun v l ↦ (l.1, v)) vs).1 := by
  induction t using Node.induct generalizing i vs with
  | value name literal =>
    cases vs with
    | nil => exact absurd hlen (Nat.not_succ_le_zero 0)
    | cons v vs =>
      have hv : c.leaves i = some v := hvs 0 (Nat.succ_pos _)
      rw [Node.zipLeaves, evalIn, eval, Context.valueFor, hv]
      rfl
  | call tool args ih =>
    obtain ⟨-, hargs⟩ := Node.forall_mem_nodes_iff.mp ht
    simp only [Node.zipLeaves, evalIn, eval, Node.length_zipLeavesAll]
    rw [evalAllIn_eq_zipLeavesAll_of (fun t hmem ↦ ih t hmem (hargs t hmem)) hvs hlen]
  | program heading body ih =>
    obtain ⟨-, hbody⟩ := Node.forall_mem_nodes_iff.mp ht
    simp only [Node.zipLeaves, evalIn, eval]
    rw [evalAllIn_eq_zipLeavesAll_of (fun t hmem ↦ ih t hmem (hbody t hmem)) hvs hlen]
  | cond test yes iht ihy =>
    obtain ⟨-, hparts⟩ := Node.forall_mem_nodes_iff.mp ht
    rw [Node.leaves_cond, List.length_append] at hlen
    -- the branch takes what the test has left of the list, and starts at the leaf behind it
    have hrest := hvs.drop test.leaves.length
    simp only [Node.zipLeaves, evalIn, eval, Node.snd_zipLeaves]
    rw [iht (hparts test (by simp [Node.children])) hvs (by omega),
      ihy (hparts yes (by simp [Node.children])) hrest (by rw [List.length_drop]; omega)]
  | condElse test yes no iht ihy ihn =>
    obtain ⟨-, hparts⟩ := Node.forall_mem_nodes_iff.mp ht
    rw [Node.leaves_condElse, List.length_append, List.length_append] at hlen
    have hyes := hvs.drop test.leaves.length
    have hno := hyes.drop yes.leaves.length
    simp only [Node.zipLeaves, evalIn, eval, Node.snd_zipLeaves]
    rw [iht (hparts test (by simp [Node.children])) hvs (by omega),
      ihy (hparts yes (by simp [Node.children])) hyes (by rw [List.length_drop]; omega),
      ihn (hparts no (by simp [Node.children])) hno
        (by rw [List.length_drop, List.length_drop]; omega)]
  | lambda params tool args ih => exact (ht _ (Node.self_mem_nodes _)).elim
  | listOp op params tool args items ih ihi => exact (ht _ (Node.self_mem_nodes _)).elim
  | bare => rfl

/-- **All leaves bound.** A program of first order whose leaves are all bound is evaluated like the
program with the values in place of the literals. -/
theorem evalIn_eq_eval_replaceLiterals {c : Context} {t : Tree}
    (ht : ∀ n ∈ t.nodes, n.IsFirstOrder) {vs : List Value} (hvs : ∀ i, c.leaves i = vs[i]?)
    (hlen : t.leaves.length ≤ vs.length) :
    evalIn p c 0 t = eval p [] (t.replaceLiterals vs) := by
  have hbinds : c.Binds 0 vs := fun k _ ↦ by rw [Nat.zero_add, hvs]
  rw [evalIn_eq_eval_zipLeaves ht hbinds hlen, Node.replaceLiterals]

end

end CallTree
