import CallTree.Proofs.Accepted
import CallTree.Proofs.Names

/-!
# What bindings reach

A leaf is read in the bindings of its place, and a map or filter binds a parameter of its lambda
around each evaluation of the body. So what is bound outside can only be seen through names that are
free in the tree. `Node.freeNames` lists them, given which of its parameters a lambda binds.

A map or filter invokes its lambda with one argument, for the first parameter, and takes no notice
of the others. A further parameter is declared and still read from the bindings around. So the names
that have to agree are those free of *first* parameters (`eval_eq_of_agree`), and it is not enough
that bindings agree on the names that no lambda around declares (`eval_reads_declared`). Where every
lambda has exactly one parameter, as the check demands, there is no difference between the two.

A reduce is left out: it reads the placeholder of its own accumulator in the bindings around it.
-/

namespace CallTree

variable {σ : Type}

/-! ## Free names -/

namespace Node

variable {α : Type}

mutual

/-- The names of leaves outside of the bodies of lambdas that bind them, where `binds` says which of
its parameters a lambda binds. -/
def freeNames (binds : List String → List String) : Node α → List String
  | .value name _ => [name]
  | .call _ args => freeNamesAll binds args
  | .program _ body => freeNamesAll binds body
  | .cond test yes none => test.freeNames binds ++ yes.freeNames binds
  | .cond test yes (some no) => test.freeNames binds ++ yes.freeNames binds ++ no.freeNames binds
  | .lambda params _ args => (freeNamesAll binds args).filter (· ∉ binds params)
  | .over _ params _ args items =>
    (freeNamesAll binds args).filter (· ∉ binds params) ++ items.freeNames binds
  | .bare => []

/-- The free names of the trees in a list. -/
def freeNamesAll (binds : List String → List String) : List (Node α) → List String
  | [] => []
  | t :: ts => t.freeNames binds ++ freeNamesAll binds ts

end

theorem mem_freeNamesAll_of_mem {binds : List String → List String} {t : Node α}
    {ts : List (Node α)} (ht : t ∈ ts) {x : String} (hx : x ∈ t.freeNames binds) :
    x ∈ freeNamesAll binds ts := by
  induction ts with
  | nil => exact absurd ht List.not_mem_nil
  | cons u us ih =>
    rw [freeNamesAll, List.mem_append]
    rcases List.mem_cons.mp ht with rfl | ht
    · exact Or.inl hx
    · exact Or.inr (ih ht)

/-- A list operation other than a reduce, of whose parameters only the first counts as bound. -/
def BindsFirst (binds : List String → List String) : Node α → Prop
  | .over op params _ _ _ => op ≠ .reduce ∧ ∀ x ∈ binds params, x ∈ params.take 1
  | _ => True

end Node

/-! ## Below a binder -/

/-- Inside the lambda of a map or filter, bindings agree on a name that is the first parameter, and
on any other name if they do outside. -/
theorem get?_extend_zip_single {names names' : Bindings} {params : List String} {x : String}
    (v : Value) (h : x ∉ params.take 1 → names.get? x = names'.get? x) :
    (names.extend (params.zip [v])).get? x = (names'.extend (params.zip [v])).get? x := by
  by_cases hx : x ∈ params.take 1
  · cases params with
    | nil => exact absurd hx List.not_mem_nil
    | cons a others =>
      have hzip : (a :: others).zip [v] = [a].zip [v] := by simp
      rw [hzip]
      exact get?_extend_zip_of_mem rfl hx names names'
  · exact get?_extend_congr (h hx) _

/-- **Evaluation depends on free names only**, whatever is taken to be bound, as long as it is among
the first parameters. -/
theorem eval_congr_freeNames (p : Provider σ) {binds : List String → List String} {t : Tree}
    (ht : t.lambdasApplied) (hbinds : ∀ n ∈ t.nodes, n.BindsFirst binds) {names names' : Bindings}
    (h : ∀ x ∈ t.freeNames binds, names.get? x = names'.get? x) :
    eval p names t = eval p names' t := by
  induction t using Node.induct generalizing names names' with
  | value name literal =>
    rw [eval, eval, leafValue_congr (h name List.mem_cons_self)]
  | call tool args ih =>
    rw [Node.lambdasApplied, Node.lambdasAppliedAll_iff] at ht
    have hbelow := (Node.forall_mem_nodes_iff.mp hbinds).2
    rw [eval, eval, evalAll_congr fun t hmem ↦ ih t hmem (ht t hmem) (hbelow t hmem) fun x hx ↦
      h x (Node.mem_freeNamesAll_of_mem hmem hx)]
  | program heading body ih =>
    rw [Node.lambdasApplied, Node.lambdasAppliedAll_iff] at ht
    have hbelow := (Node.forall_mem_nodes_iff.mp hbinds).2
    rw [eval, eval, evalAll_congr fun t hmem ↦ ih t hmem (ht t hmem) (hbelow t hmem) fun x hx ↦
      h x (Node.mem_freeNamesAll_of_mem hmem hx)]
  | cond test yes iht ihy =>
    rw [Node.lambdasApplied, Bool.and_eq_true] at ht
    have hbelow := (Node.forall_mem_nodes_iff.mp hbinds).2
    simp only [Node.freeNames, List.mem_append] at h
    rw [eval, eval, iht ht.1 (hbelow test (by simp [Node.children])) fun x hx ↦ h x (Or.inl hx),
      ihy ht.2 (hbelow yes (by simp [Node.children])) fun x hx ↦ h x (Or.inr hx)]
  | condElse test yes no iht ihy ihn =>
    rw [Node.lambdasApplied, Bool.and_eq_true, Bool.and_eq_true] at ht
    have hbelow := (Node.forall_mem_nodes_iff.mp hbinds).2
    simp only [Node.freeNames, List.mem_append] at h
    rw [eval, eval,
      iht ht.1.1 (hbelow test (by simp [Node.children])) fun x hx ↦ h x (Or.inl (Or.inl hx)),
      ihy ht.1.2 (hbelow yes (by simp [Node.children])) fun x hx ↦ h x (Or.inl (Or.inr hx)),
      ihn ht.2 (hbelow no (by simp [Node.children])) fun x hx ↦ h x (Or.inr hx)]
  | lambda params tool args ih => exact absurd ht Node.not_lambdasApplied_lambda
  | listOp op params tool args items ih ihi =>
    rw [Node.lambdasApplied, Bool.and_eq_true, Node.lambdasAppliedAll_iff] at ht
    obtain ⟨⟨hop, hfirst⟩, hbelow⟩ := Node.forall_mem_nodes_iff.mp hbinds
    have hitems : ∀ n ∈ items.nodes, n.BindsFirst binds := hbelow items (by simp [Node.children])
    have hargs : ∀ t ∈ args, ∀ n ∈ t.nodes, n.BindsFirst binds := by
      intro t hmem n hn
      refine hbelow (.lambda params tool args) (by simp [Node.children]) n ?_
      exact List.mem_cons_of_mem _ (List.mem_cons_of_mem _ (Node.mem_nodesAll_of_mem hmem hn))
    simp only [Node.freeNames, List.mem_append, List.mem_filter, decide_eq_true_eq] at h
    rw [eval, eval, ihi ht.2 hitems fun x hx ↦ h x (Or.inr hx)]
    refine congrArg _ (funext fun v ↦ congrArg _ (funext fun xs ↦ ?_))
    refine runListOp_congr rfl (fun hreduce ↦ absurd hreduce hop) (fun vs hvs ↦ ?_) xs
    -- a map and a filter hand over one item at a time
    obtain ⟨w, rfl⟩ : ∃ w, vs = [w] := by
      refine List.length_eq_one_iff.mp (hvs.trans ?_)
      cases op with
      | reduce => exact absurd rfl hop
      | map => rfl
      | filter => rfl
    rw [evalAll_congr fun t hmem ↦ ih t hmem (ht.1 t hmem) (hargs t hmem) fun x hx ↦
      get?_extend_zip_single w fun hnot ↦ h x (Or.inl
        ⟨Node.mem_freeNamesAll_of_mem hmem hx, fun hbound ↦ hnot (hfirst x hbound)⟩)]
  | bare => rfl

/-! ## Bindings that agree -/

theorem bindsFirst_of_mem_nodes {t : Tree} {binds : List String → List String}
    (hreduce : ∀ params tool args items, .over .reduce params tool args items ∉ t.nodes)
    (hbinds : ∀ op params tool args items, .over op params tool args items ∈ t.nodes →
      ∀ x ∈ binds params, x ∈ params.take 1) :
    ∀ n ∈ t.nodes, n.BindsFirst binds := by
  intro n hn
  cases n with
  | «over» op params tool args items =>
    refine ⟨?_, hbinds op params tool args items hn⟩
    rintro rfl
    exact hreduce params tool args items hn
  | _ => trivial

/-- **Bindings reach only the free names of a tree.** Without reduces, and with lambdas only as
functions of list operations, a tree evaluates alike in any two bindings that agree on the names of
leaves outside of the bodies of lambdas with that name as first parameter: result, state of the
provider and tool calls are the same. If every lambda has one parameter, the bindings have to agree
only on the names of leaves outside of the bodies of lambdas that declare the name. -/
theorem eval_eq_of_agree (p : Provider σ) {t : Tree} (ht : t.lambdasApplied)
    (hreduce : ∀ params tool args items, .over .reduce params tool args items ∉ t.nodes)
    (names names' : Bindings) :
    ((∀ x ∈ t.freeNames (List.take 1), names.get? x = names'.get? x) →
      eval p names t = eval p names' t) ∧
    ((∀ op params tool args items, .over op params tool args items ∈ t.nodes →
        params.length = 1) →
      (∀ x ∈ t.freeNames id, names.get? x = names'.get? x) →
      eval p names t = eval p names' t) := by
  refine ⟨fun h ↦ ?_, fun hone h ↦ ?_⟩
  · exact eval_congr_freeNames p ht (bindsFirst_of_mem_nodes hreduce fun _ _ _ _ _ _ _ hx ↦ hx) h
  · refine eval_congr_freeNames p ht (bindsFirst_of_mem_nodes hreduce ?_) h
    intro op params tool args items hn x hx
    rwa [List.take_of_length_le (hone op params tool args items hn).le]

/-- Rows of numbers: the inner map shadows the name `x` of the outer one, whose list has a leaf of
that name too. -/
def rowsOfHalves : Tree :=
  .over .map ["x"] "add" [
    .over .map ["x"] "half" [.value "x" .null] (.value "x" .null), .value "y" (.int 0)]
    (.cond (.value "more" .null) (.value "x" .null)
      (some (.value "rows" (.list [.list [.int 1]]))))

/-- A map whose lambda declares a second parameter. -/
def secondParameter : Tree :=
  .over .map ["x", "y"] "add" [.value "x" .null, .value "y" .null]
    (.value "items" (.list [.int 1]))

theorem secondParameter_without_reduce (params : List String) (tool : String) (args : List Tree)
    (items : Tree) : .over .reduce params tool args items ∉ secondParameter.nodes := by
  simp [secondParameter, Node.nodes, Node.nodesAll]

/-- What is bound to the first parameter outside cannot be seen, but what is bound to the second one
can; with one parameter, nothing of what the bodies declare can be seen. -/
theorem eval_eq_of_agree_secondParameter :
    secondParameter.freeNames (List.take 1) = ["y", "items"] ∧
    eval handingBack [("y", .int 5), ("x", .int 7)] secondParameter =
      eval handingBack [("z", .int 4), ("y", .int 5)] secondParameter ∧
    rowsOfHalves.freeNames id = ["y", "more", "x", "rows"] ∧
    eval handingBack [("y", .int 2), ("rows", .list [.list [.int 3]]), ("z", .int 4)]
        rowsOfHalves =
      eval handingBack [("rows", .list [.list [.int 3]]), ("y", .int 2), ("y", .int 5)]
        rowsOfHalves := by
  refine ⟨by decide, ?_, by decide, ?_⟩
  · refine (eval_eq_of_agree handingBack rfl secondParameter_without_reduce _ _).1 fun x hx ↦ ?_
    have hx : x ∈ ["y", "items"] := hx
    simp only [List.mem_cons, List.not_mem_nil, or_false] at hx
    rcases hx with rfl | rfl <;> rfl
  · have hreduce : ∀ params tool args items,
        .over .reduce params tool args items ∉ rowsOfHalves.nodes := by
      simp [rowsOfHalves, Node.nodes, Node.nodesAll]
    have hone : ∀ op params tool args items,
        .over op params tool args items ∈ rowsOfHalves.nodes → params.length = 1 := by
      intro op params tool args items hn
      simp only [rowsOfHalves, Node.nodes, Node.nodesAll, List.mem_cons, List.mem_append,
        List.not_mem_nil, reduceCtorEq, Node.over.injEq, or_false, false_or] at hn
      rcases hn with ⟨-, rfl, -⟩ | ⟨-, rfl, -⟩ <;> rfl
    refine (eval_eq_of_agree handingBack rfl hreduce _ _).2 hone fun x hx ↦ ?_
    have hx : x ∈ ["y", "more", "x", "rows"] := hx
    simp only [List.mem_cons, List.not_mem_nil, or_false] at hx
    rcases hx with rfl | rfl | rfl | rfl <;> rfl

/-! ## Parameters that are declared and not bound -/

/-- The second parameter occurs only in the body of the lambda that declares it, and yet it is read
from the bindings around, so that bindings that differ in nothing else lead to different calls. -/
theorem eval_reads_declared :
    secondParameter.lambdasApplied ∧
    (∀ params tool args items, .over .reduce params tool args items ∉ secondParameter.nodes) ∧
    (∀ x ∈ secondParameter.freeNames id,
      Bindings.get? [] x = Bindings.get? [("y", .int 5)] x) ∧
    (eval handingBack [] secondParameter ()).trace =
      [⟨"add", [("a", .int 1), ("b", .null)]⟩] ∧
    (eval handingBack [("y", .int 5)] secondParameter ()).trace =
      [⟨"add", [("a", .int 1), ("b", .int 5)]⟩] ∧
    eval handingBack [] secondParameter ≠ eval handingBack [("y", .int 5)] secondParameter := by
  have hunbound : (eval handingBack [] secondParameter ()).trace =
      [⟨"add", [("a", .int 1), ("b", .null)]⟩] := by cbv
  have hbound : (eval handingBack [("y", .int 5)] secondParameter ()).trace =
      [⟨"add", [("a", .int 1), ("b", .int 5)]⟩] := by cbv
  refine ⟨rfl, secondParameter_without_reduce, ?_, hunbound, hbound, ?_⟩
  · intro x hx
    have hx : x ∈ ["items"] := hx
    obtain rfl := List.mem_singleton.mp hx
    rfl
  · intro heq
    rw [heq, hbound] at hunbound
    simp at hunbound

end CallTree
