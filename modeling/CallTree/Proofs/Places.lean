import CallTree.Proofs.Accepted
import CallTree.Proofs.Names

/-!
# Places in a program

A part of a program is exchanged for another one. A `Place` is what stands around the part, from
the root down; this file says what has to be known of the two parts so that the whole is accepted
with the one when it is with the other, and so that both evaluate alike.

For the check it is enough that both parts are regular and show the same leaves to the lambdas
around them (`Place.allRegular_fill`). For the evaluation the two have to agree in all bindings that
can reach the place, and one more thing has to be seen to: a reduce searches the whole body of its
lambda for the leaf it starts from, the exchanged part included (`Place.eval_fill`).
-/

namespace CallTree

/-! ## Regular trees

What is accepted is a program all nodes of which have names, are of a particular kind and keep their
own rule. -/

namespace Node

/-- A node is named, of a particular kind and keeps its own rule. -/
structure IsRegular (known : Signatures) (n : Tree) : Prop where
  named : n.IsNamed
  kind : n ≠ .bare
  rule : checkNode known n = .ok ()

/-- All nodes of a tree are regular. -/
def AllRegular (known : Signatures) (t : Tree) : Prop := ∀ n ∈ t.nodes, n.IsRegular known

variable {known : Signatures}

theorem allRegular_iff_children {t : Tree} :
    t.AllRegular known ↔ t.IsRegular known ∧ ∀ c ∈ t.children, c.AllRegular known :=
  forall_mem_nodes_iff

theorem allRegular_value {name : String} {literal : Value} :
    (value name literal : Tree).AllRegular known ↔ name ≠ "" := by
  rw [allRegular_iff_children]
  exact ⟨fun h ↦ h.1.named, fun h ↦ ⟨⟨h, nofun, rfl⟩, by simp [children]⟩⟩

theorem allRegular_call {tool : String} {args : List Tree} :
    (call tool args).AllRegular known ↔
      tool ≠ "" ∧ checkCall known tool args.length = .ok () ∧ ∀ t ∈ args, t.AllRegular known := by
  rw [allRegular_iff_children]
  exact ⟨fun h ↦ ⟨h.1.named, h.1.rule, h.2⟩, fun h ↦ ⟨⟨h.1, nofun, h.2.1⟩, h.2.2⟩⟩

theorem allRegular_program {heading : Heading} {body : List Tree} :
    (program heading body).AllRegular known ↔ ∀ t ∈ body, t.AllRegular known := by
  rw [allRegular_iff_children]
  exact ⟨fun h ↦ h.2, fun h ↦ ⟨⟨trivial, nofun, rfl⟩, h⟩⟩

theorem allRegular_cond {test yes : Tree} {no : Option Tree} :
    (cond test yes no).AllRegular known ↔
      test.AllRegular known ∧ yes.AllRegular known ∧ ∀ t ∈ no, t.AllRegular known := by
  rw [allRegular_iff_children]
  constructor
  · intro h
    refine ⟨h.2 _ (by simp [children]), h.2 _ (by simp [children]), fun t ht ↦ h.2 _ ?_⟩
    simp [children, Option.mem_def.mp ht]
  · rintro ⟨ht, hy, hn⟩
    refine ⟨⟨trivial, by rintro ⟨⟩, rfl⟩, ?_⟩
    simpa [children, ht, hy] using hn

theorem allRegular_lambda {params : List String} {tool : String} {args : List Tree} :
    (lambda params tool args).AllRegular known ↔
      checkLambda params (boundLeavesAll args) = .ok () ∧ (call tool args).AllRegular known := by
  rw [allRegular_iff_children, children, List.forall_mem_singleton]
  exact and_congr_left fun _ ↦ ⟨fun h ↦ h.rule, fun h ↦ ⟨trivial, by rintro ⟨⟩, h⟩⟩

theorem allRegular_over {op : ListOp} {params : List String} {tool : String} {args : List Tree}
    {items : Tree} :
    (Node.over op params tool args items).AllRegular known ↔ params.length = op.arity ∧
      (lambda params tool args).AllRegular known ∧ items.AllRegular known := by
  rw [allRegular_iff_children, children, List.forall_mem_cons, List.forall_mem_singleton,
    ← checkOver_eq_ok_iff]
  exact and_congr_left fun _ ↦ ⟨fun h ↦ h.rule, fun h ↦ ⟨trivial, by rintro ⟨⟩, h⟩⟩

end Node

theorem allRegular_of_parse {v : Value} {t : Tree} (h : parse v = .ok t) :
    t.isProgram = true ∧ t.AllRegular [] := by
  obtain ⟨hv, hshape, hcheck⟩ := parse_eq_ok_iff.mp h
  obtain ⟨hprogram, hkind⟩ := isWellShaped_iff.mp hshape
  refine ⟨hprogram, fun n hn ↦ ⟨?_, hkind n hn, check_eq_ok_iff.mp hcheck n hn⟩⟩
  exact allNamed_of_ofValue? hv n hn

theorem parse_toValue_of_allRegular {t : Tree} (hprogram : t.isProgram = true)
    (ht : t.AllRegular []) : parse t.toValue = .ok t := by
  refine parse_toValue (fun n hn ↦ (ht n hn).named) ?_ ?_
  · exact isWellShaped_iff.mpr ⟨hprogram, fun n hn ↦ (ht n hn).kind⟩
  · exact check_eq_ok_iff.mpr fun n hn ↦ (ht n hn).rule

/-! ## Places -/

/-- A node of which one part is missing. The body of a lambda is a call, and its parts are the
arguments of that call. -/
inductive Frame where
  | call (tool : String) (before after : List Tree)
  | program (heading : Heading) (before after : List Tree)
  | condTest (yes : Tree) (no : Option Tree)
  | condYes (test : Tree) (no : Option Tree)
  | condNo (test yes : Tree)
  | overBody (op : ListOp) (params : List String) (tool : String) (before after : List Tree)
      (items : Tree)
  | overItems (op : ListOp) (params : List String) (tool : String) (args : List Tree)

namespace Frame

/-- The node with the missing part put in. -/
def fill : Frame → Tree → Tree
  | .call tool before after, t => .call tool (before ++ t :: after)
  | .program heading before after, t => .program heading (before ++ t :: after)
  | .condTest yes no, t => .cond t yes no
  | .condYes test no, t => .cond test t no
  | .condNo test yes, t => .cond test yes (some t)
  | .overBody op params tool before after items, t =>
    .over op params tool (before ++ t :: after) items
  | .overItems op params tool args, t => .over op params tool args t

/-- The names that a node binds around the missing part. -/
def bound : Frame → List String
  | .overBody _ params _ _ _ _ => params
  | _ => []

end Frame

/-- What stands around a part of a tree, from the root down. -/
inductive Place where
  | here
  | under (f : Frame) (C : Place)

namespace Place

/-- The tree with a part put in its place. -/
def fill : Place → Tree → Tree
  | .here, t => t
  | .under f C, t => f.fill (C.fill t)

/-- The names that are bound in a place, besides those that are bound outside. -/
def bound (outer : List String) : Place → List String
  | .here => outer
  | .under f C => bound (f.bound ++ outer) C

end Place

theorem Frame.mem_nodes_fill (f : Frame) (t : Tree) : t ∈ (f.fill t).nodes := by
  have hmem : ∀ before after : List Tree, t ∈ Node.nodesAll (before ++ t :: after) :=
    fun before after ↦ Node.mem_nodesAll_of_mem (by simp) t.self_mem_nodes
  cases f with
  | call tool before after => exact List.mem_cons_of_mem _ (hmem before after)
  | program heading before after => exact List.mem_cons_of_mem _ (hmem before after)
  | condTest yes no => cases no <;> simp [fill, Node.nodes, t.self_mem_nodes]
  | condYes test no => cases no <;> simp [fill, Node.nodes, t.self_mem_nodes]
  | condNo test yes => simp [fill, Node.nodes, t.self_mem_nodes]
  | overBody op params tool before after items => simp [fill, Node.nodes, hmem before after]
  | overItems op params tool args => simp [fill, Node.nodes, t.self_mem_nodes]

theorem Place.mem_nodes_fill (C : Place) (t : Tree) : t ∈ (C.fill t).nodes := by
  induction C with
  | here => exact t.self_mem_nodes
  | under f C ih => exact Node.nodes_trans (f.mem_nodes_fill _) ih

/-- A name that is bound in a place is a parameter of one of the lambdas around it. -/
theorem Place.exists_lambda_of_mem_bound {C : Place} {outer : List String} {x : String}
    (hx : x ∈ C.bound outer) (t : Tree) : x ∈ outer ∨ ∃ params tool args, x ∈ params ∧
      .lambda params tool args ∈ (C.fill t).nodes := by
  induction C generalizing outer with
  | here => exact Or.inl hx
  | under f C ih =>
    obtain hx | ⟨params, tool, args, hx, hn⟩ := ih hx
    · rw [List.mem_append] at hx
      refine hx.symm.imp id fun hx ↦ ?_
      cases f with
      | overBody op params tool before after items =>
        refine ⟨params, tool, before ++ C.fill t :: after, hx, ?_⟩
        simp [fill, Frame.fill, Node.nodes]
      | _ => exact absurd hx List.not_mem_nil
    · exact Or.inr ⟨params, tool, args, hx, Node.nodes_trans (f.mem_nodes_fill _) hn⟩

theorem Frame.lambdasApplied_of_fill {f : Frame} {t : Tree} (h : (f.fill t).lambdasApplied) :
    t.lambdasApplied := by
  have hmem : ∀ {before after : List Tree}, Node.lambdasAppliedAll (before ++ t :: after) →
      t.lambdasApplied := fun h ↦ Node.lambdasAppliedAll_iff.mp h t (by simp)
  cases f with
  | call tool before after => exact hmem h
  | program heading before after => exact hmem h
  | condTest yes no => cases no <;> simp_all [fill, Node.lambdasApplied]
  | condYes test no => cases no <;> simp_all [fill, Node.lambdasApplied]
  | condNo test yes => simp_all [fill, Node.lambdasApplied]
  | overBody op params tool before after items =>
    rw [fill, Node.lambdasApplied, Bool.and_eq_true] at h
    exact hmem h.1
  | overItems op params tool args => simp_all [fill, Node.lambdasApplied]

theorem Place.lambdasApplied_of_fill {C : Place} {t : Tree} (h : (C.fill t).lambdasApplied) :
    t.lambdasApplied := by
  induction C with
  | here => exact h
  | under f C ih => exact ih (f.lambdasApplied_of_fill h)

/-- Every lambda of a tree that applies its lambdas is the function of a list operation in some
place. -/
theorem exists_place_of_lambda {t : Tree} (ht : t.lambdasApplied) {params : List String}
    {tool : String} {args : List Tree} (h : .lambda params tool args ∈ t.nodes) :
    ∃ (C : Place) (op : ListOp) (items : Tree), t = C.fill (.over op params tool args items) := by
  induction t using Node.induct with
  | value name literal => simp [Node.nodes] at h
  | bare => simp [Node.nodes] at h
  | lambda params' tool' args' ih => exact absurd ht Node.not_lambdasApplied_lambda
  | call tool' args' ih =>
    rw [Node.lambdasApplied, Node.lambdasAppliedAll_iff] at ht
    simp only [Node.nodes, List.mem_cons, reduceCtorEq, false_or] at h
    obtain ⟨c, hc, h⟩ := Node.mem_nodesAll.mp h
    obtain ⟨C, op, items, rfl⟩ := ih c hc (ht c hc) h
    obtain ⟨before, after, rfl⟩ := List.append_of_mem hc
    exact ⟨.under (.call tool' before after) C, op, items, rfl⟩
  | program heading body ih =>
    rw [Node.lambdasApplied, Node.lambdasAppliedAll_iff] at ht
    simp only [Node.nodes, List.mem_cons, reduceCtorEq, false_or] at h
    obtain ⟨c, hc, h⟩ := Node.mem_nodesAll.mp h
    obtain ⟨C, op, items, rfl⟩ := ih c hc (ht c hc) h
    obtain ⟨before, after, rfl⟩ := List.append_of_mem hc
    exact ⟨.under (.program heading before after) C, op, items, rfl⟩
  | cond test yes iht ihy =>
    rw [Node.lambdasApplied, Bool.and_eq_true] at ht
    simp only [Node.nodes, List.mem_cons, List.mem_append, reduceCtorEq, false_or] at h
    obtain h | h := h
    · obtain ⟨C, op, items, rfl⟩ := iht ht.1 h
      exact ⟨.under (.condTest yes none) C, op, items, rfl⟩
    · obtain ⟨C, op, items, rfl⟩ := ihy ht.2 h
      exact ⟨.under (.condYes test none) C, op, items, rfl⟩
  | condElse test yes no iht ihy ihn =>
    rw [Node.lambdasApplied, Bool.and_eq_true, Bool.and_eq_true] at ht
    simp only [Node.nodes, List.mem_cons, List.mem_append, reduceCtorEq, false_or] at h
    obtain (h | h) | h := h
    · obtain ⟨C, op, items, rfl⟩ := iht ht.1.1 h
      exact ⟨.under (.condTest yes (some no)) C, op, items, rfl⟩
    · obtain ⟨C, op, items, rfl⟩ := ihy ht.1.2 h
      exact ⟨.under (.condYes test (some no)) C, op, items, rfl⟩
    · obtain ⟨C, op, items, rfl⟩ := ihn ht.2 h
      exact ⟨.under (.condNo test yes) C, op, items, rfl⟩
  | listOp op' params' tool' args' items' ih ihi =>
    rw [Node.lambdasApplied, Bool.and_eq_true, Node.lambdasAppliedAll_iff] at ht
    simp only [Node.nodes, List.mem_cons, List.mem_append, reduceCtorEq, false_or,
      Node.lambda.injEq] at h
    obtain ⟨rfl, rfl, rfl⟩ | h | h := h
    · exact ⟨.here, op', items', rfl⟩
    · obtain ⟨c, hc, h⟩ := Node.mem_nodesAll.mp h
      obtain ⟨C, op, items, rfl⟩ := ih c hc (ht.1 c hc) h
      obtain ⟨before, after, rfl⟩ := List.append_of_mem hc
      exact ⟨.under (.overBody op' params' tool' before after items') C, op, items, rfl⟩
    · obtain ⟨C, op, items, rfl⟩ := ihi ht.2 h
      exact ⟨.under (.overItems op' params' tool' args') C, op, items, rfl⟩

/-! ## The first leaf of a name -/

theorem firstLeaf?_exchange {name : String} {t u : Tree}
    (h : firstLeaf? name t.nodes = firstLeaf? name u.nodes) (before after : List Tree) :
    firstLeaf? name (Node.nodesAll (before ++ t :: after)) =
      firstLeaf? name (Node.nodesAll (before ++ u :: after)) := by
  simp only [Node.nodesAll_append, firstLeaf?_append, firstLeaf?_nodesAll_cons, h]

theorem Frame.firstLeaf?_fill {name : String} {t u : Tree}
    (h : firstLeaf? name t.nodes = firstLeaf? name u.nodes) (f : Frame) :
    firstLeaf? name (f.fill t).nodes = firstLeaf? name (f.fill u).nodes := by
  have hroot : ∀ t : Tree, (f.fill t).leaf? = none := fun t ↦ by cases f <;> rfl
  rw [firstLeaf?_nodes_eq (hroot t), firstLeaf?_nodes_eq (hroot u)]
  cases f with
  | call tool before after => exact firstLeaf?_exchange h before after
  | program heading before after => exact firstLeaf?_exchange h before after
  | condTest yes no => exact firstLeaf?_exchange h [] _
  | condYes test no => exact firstLeaf?_exchange h [test] _
  | condNo test yes => exact firstLeaf?_exchange h [test, yes] []
  | overBody op params tool before after items =>
    simp only [fill, Node.children, firstLeaf?_nodesAll_cons, firstLeaf?_lambda,
      firstLeaf?_exchange h before after]
  | overItems op params tool args => exact firstLeaf?_exchange h [.lambda params tool args] []

theorem Place.firstLeaf?_fill {name : String} {t u : Tree}
    (h : firstLeaf? name t.nodes = firstLeaf? name u.nodes) (C : Place) :
    firstLeaf? name (C.fill t).nodes = firstLeaf? name (C.fill u).nodes := by
  induction C with
  | here => exact h
  | under f C ih => exact f.firstLeaf?_fill ih

/-! ## Acceptance -/

section

variable {known : Signatures} {t u : Tree}

theorem Frame.boundLeaves_fill (h : boundLeaves t = boundLeaves u) (f : Frame) :
    boundLeaves (f.fill t) = boundLeaves (f.fill u) := by
  cases f with
  | condTest yes no => cases no <;> simp [fill, boundLeaves, h]
  | condYes test no => cases no <;> simp [fill, boundLeaves, h]
  | _ => simp [fill, boundLeaves, boundLeavesAll_eq_flatMap, h]

theorem Place.boundLeaves_fill (h : boundLeaves t = boundLeaves u) (C : Place) :
    boundLeaves (C.fill t) = boundLeaves (C.fill u) := by
  induction C with
  | here => exact h
  | under f C ih => exact f.boundLeaves_fill ih

private theorem forall_mem_exchange {P : Tree → Prop} {before after : List Tree}
    (h : ∀ x ∈ before ++ t :: after, P x) (hu : P u) : ∀ x ∈ before ++ u :: after, P x := by
  simp only [List.mem_append, List.mem_cons] at h ⊢
  rintro x (hx | rfl | hx)
  · exact h x (Or.inl hx)
  · exact hu
  · exact h x (Or.inr (Or.inr hx))

theorem Frame.allRegular_fill {f : Frame} (h : (f.fill t).AllRegular known)
    (hu : u.AllRegular known) (hleaves : boundLeaves t = boundLeaves u) :
    (f.fill u).AllRegular known := by
  have hcall : ∀ {tool : String} {before after : List Tree},
      (Node.call tool (before ++ t :: after)).AllRegular known →
        (Node.call tool (before ++ u :: after)).AllRegular known := by
    intro tool before after h
    rw [Node.allRegular_call] at h ⊢
    exact ⟨h.1, by simpa using h.2.1, forall_mem_exchange h.2.2 hu⟩
  cases f with
  | call tool before after => exact hcall h
  | program heading before after =>
    exact Node.allRegular_program.mpr (forall_mem_exchange (Node.allRegular_program.mp h) hu)
  | condTest yes no => exact Node.allRegular_cond.mpr ⟨hu, (Node.allRegular_cond.mp h).2⟩
  | condYes test no =>
    obtain ⟨ht, -, hn⟩ := Node.allRegular_cond.mp h
    exact Node.allRegular_cond.mpr ⟨ht, hu, hn⟩
  | condNo test yes =>
    obtain ⟨ht, hy, -⟩ := Node.allRegular_cond.mp h
    exact Node.allRegular_cond.mpr ⟨ht, hy, fun _ hx ↦ Option.mem_some.mp hx ▸ hu⟩
  | overBody op params tool before after items =>
    obtain ⟨harity, hlambda, hitems⟩ := Node.allRegular_over.mp h
    obtain ⟨hrule, hbody⟩ := Node.allRegular_lambda.mp hlambda
    -- the lambda sees the leaves of the part, and those are the same
    have hsame : boundLeavesAll (before ++ u :: after) = boundLeavesAll (before ++ t :: after) := by
      simp [boundLeavesAll_eq_flatMap, hleaves]
    refine Node.allRegular_over.mpr ⟨harity, Node.allRegular_lambda.mpr ⟨?_, hcall hbody⟩, hitems⟩
    rw [hsame]
    exact hrule
  | overItems op params tool args =>
    obtain ⟨harity, hlambda, -⟩ := Node.allRegular_over.mp h
    exact Node.allRegular_over.mpr ⟨harity, hlambda, hu⟩

theorem Place.allRegular_fill {C : Place} (h : (C.fill t).AllRegular known)
    (hu : u.AllRegular known) (hleaves : boundLeaves t = boundLeaves u) :
    (C.fill u).AllRegular known := by
  induction C with
  | here => exact hu
  | under f C ih =>
    have hpart : (C.fill t).AllRegular known :=
      fun n hn ↦ h n (Node.nodes_trans (f.mem_nodes_fill _) hn)
    exact f.allRegular_fill h (ih hpart) (C.boundLeaves_fill hleaves)

/-- What is put into a program is not its root, unless it is a program itself. -/
theorem Place.isProgram_fill {C : Place} (ht : t.isProgram = false)
    (h : (C.fill t).isProgram = true) : (C.fill u).isProgram = true := by
  cases C with
  | here => exact absurd (ht.symm.trans h) Bool.false_ne_true
  | under f C => cases f <;> exact h

end

/-! ## Evaluation -/

/-- Exactly the given names are bound. -/
def Bindings.Binds (names : Bindings) (bound : List String) : Prop :=
  ∀ x, (names.get? x).isSome ↔ x ∈ bound

theorem binds_nil : Bindings.Binds [] [] := fun x ↦ by simp [Bindings.get?]

theorem Bindings.Binds.extend_zip {names : Bindings} {bound params : List String}
    (h : names.Binds bound) {vs : List Value} (hlen : params.length = vs.length) :
    (names.extend (params.zip vs)).Binds (params ++ bound) := by
  intro x
  rw [List.mem_append]
  by_cases hx : x ∈ params
  · rw [get?_extend, Option.isSome_or, lookup_reverse_zip_isSome hlen hx]
    simp [hx]
  · rw [get?_extend_zip_of_not_mem hx, h x]
    simp [hx]

namespace Frame

/-- The lambda around the missing part has the number of parameters that its operation needs. -/
def Fits : Frame → Prop
  | .overBody op params _ _ _ _ => params.length = op.arity
  | _ => True

/-- A reduce around the missing part starts from the same value with either part. -/
def StartsAlike (outer : List String) (t u : Tree) : Frame → Prop
  | .overBody .reduce params _ before after _ => ∀ names : Bindings, names.Binds outer →
      reduceStart? names params (Node.nodesAll (before ++ t :: after)) =
        reduceStart? names params (Node.nodesAll (before ++ u :: after))
  | _ => True

variable {σ : Type} {p : Provider σ} {t u : Tree}

theorem evalAll_exchange {names : Bindings} (h : eval p names t = eval p names u)
    (before after : List Tree) :
    evalAll p names (before ++ t :: after) = evalAll p names (before ++ u :: after) := by
  induction before with
  | nil => rw [List.nil_append, List.nil_append, evalAll, evalAll, h]
  | cons b before ih => rw [List.cons_append, List.cons_append, evalAll, evalAll, ih]

/-- Exchanging the part of a node does not show when the parts agree wherever they are evaluated,
and a reduce around them starts from the same value. -/
theorem eval_fill {f : Frame} (hfits : f.Fits) {outer : List String}
    (hstart : f.StartsAlike outer t u)
    (h : ∀ names : Bindings, names.Binds (f.bound ++ outer) → eval p names t = eval p names u)
    {names : Bindings} (hnames : names.Binds outer) :
    eval p names (f.fill t) = eval p names (f.fill u) := by
  cases f with
  | call tool before after =>
    rw [fill, fill, eval, eval, evalAll_exchange (h names hnames), List.length_append,
      List.length_append, List.length_cons, List.length_cons]
  | program heading before after =>
    rw [fill, fill, eval, eval, evalAll_exchange (h names hnames)]
  | condTest yes no => cases no <;> rw [fill, fill, eval, eval, h names hnames]
  | condYes test no => cases no <;> rw [fill, fill, eval, eval, h names hnames]
  | condNo test yes => rw [fill, fill, eval, eval, h names hnames]
  | overBody op params tool before after items =>
    -- the parts are evaluated below the lambda only, where its parameters are bound too
    rw [fill, fill, eval, eval]
    refine congrArg _ (funext fun v ↦ congrArg _ (funext fun xs ↦ ?_))
    refine runListOp_congr rfl ?_ (fun vs hvs ↦ ?_) xs
    · rintro rfl
      exact hstart names hnames
    · have hlen : params.length = vs.length := hfits.trans hvs.symm
      have hpart : eval p (names.extend (params.zip vs)) t =
          eval p (names.extend (params.zip vs)) u := h _ (hnames.extend_zip hlen)
      rw [evalAll_exchange hpart, List.length_append, List.length_append, List.length_cons,
        List.length_cons]
  | overItems op params tool args => rw [fill, fill, eval, eval, h names hnames]

end Frame

namespace Place

/-- All reduces around a place start from the same value with either part in it. -/
def StartsAlike (outer : List String) (t u : Tree) : Place → Prop
  | .here => True
  | .under f C => f.StartsAlike outer (C.fill t) (C.fill u) ∧ C.StartsAlike (f.bound ++ outer) t u

/-- **Exchange.** Exchanging a part of a program does not show when the parts agree in all bindings
that can reach their place, and all reduces around it start from the same value. -/
theorem eval_fill {σ : Type} {p : Provider σ} {t u : Tree} {C : Place} {known : Signatures}
    (hC : (C.fill t).AllRegular known) {outer : List String} (hstart : C.StartsAlike outer t u)
    (h : ∀ names : Bindings, names.Binds (C.bound outer) → eval p names t = eval p names u)
    {names : Bindings} (hnames : names.Binds outer) :
    eval p names (C.fill t) = eval p names (C.fill u) := by
  induction C generalizing outer names with
  | here => exact h names hnames
  | under f C ih =>
    have hfits : f.Fits := by
      cases f with
      | overBody op params tool before after items => exact (Node.allRegular_over.mp hC).1
      | _ => trivial
    have hpart : (C.fill t).AllRegular known :=
      fun n hn ↦ hC n (Node.nodes_trans (f.mem_nodes_fill _) hn)
    exact f.eval_fill hfits hstart.1 (fun names hn ↦ ih hpart hstart.2 h hn) hnames

end Place

end CallTree
