import CallTree.Proofs.Places
import CallTree.Tool.Toolbox

/-!
# Renaming the parameter of a lambda

A parameter of a lambda is renamed together with the leaves that it names: those of the body, except
below nested lambdas that declare the same name. With a new name that occurs nowhere else, the
program is still accepted.

It also evaluates as before, with one exception, which is where a reduce starts. A reduce does not
look its placeholder up as a leaf of its own lambda. It takes the first leaf of its accumulator's
name in the whole body, also one that belongs to a nested lambda, and reads it in the bindings
around it. So a name that is used twice is seen in four ways (`StartChange`):

* a reduce in the scope of the parameter has an accumulator of the same name and starts from the
  parameter;
* the parameter is the accumulator of a reduce and a lambda around it has a parameter of that name;
* the parameter is the accumulator of a reduce and a nested lambda's placeholder comes first;
* the renamed lambda stands in the body of a reduce with an accumulator of the same name, and one
  of its leaves comes before the placeholder of that reduce.

Programs in which none of them occurs do the same after renaming (`parse_and_run_renameParam`), and
none of the four can be left out (`run_renameParam_changes`).
-/

namespace CallTree

/-! ## Renaming -/

/-- A name after `a` is renamed to `b`. -/
def renamed (a b x : String) : String := if x = a then b else x

namespace Node

variable {α : Type}

mutual

/-- Renames the leaves named `a` to `b`, except below lambdas that have a parameter `a`. -/
def renameFree (a b : String) : Node α → Node α
  | .value name literal => .value (renamed a b name) literal
  | .call tool args => .call tool (renameFreeAll a b args)
  | .program heading body => .program heading (renameFreeAll a b body)
  | .cond test yes none => .cond (test.renameFree a b) (yes.renameFree a b) none
  | .cond test yes (some no) =>
    .cond (test.renameFree a b) (yes.renameFree a b) (some (no.renameFree a b))
  | .lambda params tool args =>
    .lambda params tool (if a ∈ params then args else renameFreeAll a b args)
  | .over op params tool args items =>
    .over op params tool (if a ∈ params then args else renameFreeAll a b args)
      (items.renameFree a b)
  | .bare => .bare

/-- Renames the leaves named `a` in the trees of a list. -/
def renameFreeAll (a b : String) : List (Node α) → List (Node α)
  | [] => []
  | t :: ts => t.renameFree a b :: renameFreeAll a b ts

end

theorem renameFreeAll_eq_map (a b : String) (ts : List (Node α)) :
    renameFreeAll a b ts = ts.map (renameFree a b) := by
  induction ts with
  | nil => rfl
  | cons t ts ih => rw [renameFreeAll, ih, List.map_cons]

/-- Renames a parameter of the lambda of a list operation, and the leaves that it names. -/
def renameParam (a b : String) : Node α → Node α
  | .over op params tool args items =>
    .over op (params.map (renamed a b)) tool (renameFreeAll a b args) items
  | t => t

mutual

/-- Whether a tree has a reduce with accumulator `a` outside of lambdas with a parameter `a`. -/
def reducesFrom (a : String) : Node α → Bool
  | .value _ _ => false
  | .call _ args => reducesFromAll a args
  | .program _ body => reducesFromAll a body
  | .cond test yes none => test.reducesFrom a || yes.reducesFrom a
  | .cond test yes (some no) => test.reducesFrom a || yes.reducesFrom a || no.reducesFrom a
  | .lambda params _ args => !params.contains a && reducesFromAll a args
  | .over op params _ args items =>
    (op == .reduce && params.head? == some a) || (!params.contains a && reducesFromAll a args) ||
      items.reducesFrom a
  | .bare => false

/-- Whether one of the trees in a list has a reduce with accumulator `a`. -/
def reducesFromAll (a : String) : List (Node α) → Bool
  | [] => false
  | t :: ts => t.reducesFrom a || reducesFromAll a ts

end

theorem reducesFromAll_eq_false_iff {a : String} {ts : List (Node α)} :
    reducesFromAll a ts = false ↔ ∀ t ∈ ts, t.reducesFrom a = false := by
  induction ts with
  | nil => simp [reducesFromAll]
  | cons t ts ih => rw [reducesFromAll, Bool.or_eq_false_iff, ih, List.forall_mem_cons]

/-- Whether a name occurs in a tree, as the name of a leaf or as a parameter. -/
def mentions (x : String) (t : Node α) : Bool :=
  t.nodes.any fun
    | .value name _ => name == x
    | .lambda params _ _ => params.contains x
    | _ => false

theorem ne_of_mentions {x name : String} {literal : α} {t : Node α} (h : t.mentions x = false)
    (hn : .value name literal ∈ t.nodes) : name ≠ x := by
  rintro rfl
  exact absurd (beq_self_eq_true name) (List.any_eq_false.mp h _ hn)

theorem not_mem_of_mentions {x tool : String} {params : List String} {args : List (Node α)}
    {t : Node α} (h : t.mentions x = false) (hn : .lambda params tool args ∈ t.nodes) :
    x ∉ params := by
  intro hx
  exact absurd (List.contains_iff_mem.mpr hx) (List.any_eq_false.mp h _ hn)

theorem mentions_of_mem {x : String} {t n : Node α} (h : t.mentions x = false) (hn : n ∈ t.nodes) :
    n.mentions x = false :=
  List.any_eq_false.mpr fun m hm ↦ List.any_eq_false.mp h m (nodes_trans hn hm)

end Node

theorem renamed_of_ne {a x : String} (h : x ≠ a) (b : String) : renamed a b x = x := if_neg h

theorem renamed_self (a b : String) : renamed a b a = b := if_pos rfl

theorem renamed_inj {a b x y : String} (hx : x ≠ b) (hy : y ≠ b)
    (h : renamed a b x = renamed a b y) : x = y := by
  by_cases hxa : x = a
  · by_cases hya : y = a
    · rw [hxa, hya]
    · rw [hxa, renamed_self, renamed_of_ne hya] at h
      exact absurd h.symm hy
  · by_cases hya : y = a
    · rw [hya, renamed_self, renamed_of_ne hxa] at h
      exact absurd h hx
    · rwa [renamed_of_ne hxa, renamed_of_ne hya] at h

/-! ## The renamed program is accepted -/

section

variable {a b : String}

theorem boundLeaves_renameFree (t : Tree) :
    boundLeaves (t.renameFree a b) = (boundLeaves t).map fun l ↦ (renamed a b l.1, l.2) := by
  induction t using Node.induct with
  | value name literal => rfl
  | call tool args ih =>
    rw [Node.renameFree, boundLeaves, boundLeaves, Node.renameFreeAll_eq_map,
      boundLeavesAll_eq_flatMap, boundLeavesAll_eq_flatMap, List.flatMap_map, List.map_flatMap]
    exact congrArg List.flatten (List.map_congr_left ih)
  | program heading body ih => rfl
  | cond test yes iht ihy => simp only [Node.renameFree, boundLeaves, iht, ihy, List.map_append]
  | condElse test yes no iht ihy ihn =>
    simp only [Node.renameFree, boundLeaves, iht, ihy, ihn, List.map_append]
  | lambda params tool args ih => rfl
  | listOp op params tool args items ih ihi => rw [Node.renameFree, boundLeaves, boundLeaves, ihi]
  | bare => rfl

theorem boundLeavesAll_renameFreeAll (ts : List Tree) :
    boundLeavesAll (Node.renameFreeAll a b ts) =
      (boundLeavesAll ts).map fun l ↦ (renamed a b l.1, l.2) := by
  induction ts with
  | nil => rfl
  | cons t ts ih =>
    rw [Node.renameFreeAll, boundLeavesAll, boundLeavesAll, ih, boundLeaves_renameFree,
      List.map_append]

/-- A lambda without a parameter `a` has no null leaf of that name, so renaming such leaves does
not break its rule. -/
theorem checkLambda_renamed_of_not_mem {params : List String} {leaves : List (String × Value)}
    (ha : a ∉ params) (h : checkLambda params leaves = .ok ()) :
    checkLambda params (leaves.map fun l ↦ (renamed a b l.1, l.2)) = .ok () := by
  obtain ⟨hnodup, hparams, hnulls⟩ := checkLambda_eq_ok_iff.mp h
  refine checkLambda_eq_ok_iff.mpr ⟨hnodup, fun x hx ↦ ?_, ?_⟩
  · obtain ⟨l, hl, rfl⟩ := hparams x hx
    have hne : l.1 ≠ a := fun he ↦ ha (he ▸ hx)
    exact ⟨_, List.mem_map_of_mem hl, renamed_of_ne hne b⟩
  · rw [List.forall_mem_map]
    intro l hl hnull
    have hmem := hnulls l hl hnull
    have hne : l.1 ≠ a := fun he ↦ ha (he ▸ hmem)
    rwa [renamed_of_ne hne]

/-- Renaming a parameter along with the leaves keeps the rule of a lambda. -/
theorem checkLambda_renamed {params : List String} {leaves : List (String × Value)}
    (hb : b ∉ params) (h : checkLambda params leaves = .ok ()) :
    checkLambda (params.map (renamed a b)) (leaves.map fun l ↦ (renamed a b l.1, l.2)) =
      .ok () := by
  obtain ⟨hnodup, hparams, hnulls⟩ := checkLambda_eq_ok_iff.mp h
  refine checkLambda_eq_ok_iff.mpr ⟨?_, ?_, ?_⟩
  · refine List.pairwise_map.mpr (hnodup.imp_of_mem fun {x y} hx hy hne ↦ ?_)
    have hxb : x ≠ b := fun he ↦ hb (he ▸ hx)
    have hyb : y ≠ b := fun he ↦ hb (he ▸ hy)
    exact fun h ↦ hne (renamed_inj hxb hyb h)
  · rw [List.forall_mem_map]
    intro x hx
    obtain ⟨l, hl, rfl⟩ := hparams x hx
    exact ⟨_, List.mem_map_of_mem hl, rfl⟩
  · rw [List.forall_mem_map]
    intro l hl hnull
    exact List.mem_map_of_mem (hnulls l hl hnull)

variable {known : Signatures}

private theorem allRegular_call_map {tool : String} {args : List Tree} {f : Tree → Tree}
    (h : (Node.call tool args).AllRegular known)
    (hf : ∀ t ∈ args, t.AllRegular known → (f t).AllRegular known) :
    (Node.call tool (args.map f)).AllRegular known := by
  obtain ⟨htool, hrule, hargs⟩ := Node.allRegular_call.mp h
  refine Node.allRegular_call.mpr ⟨htool, ?_, ?_⟩
  · rwa [List.length_map]
  · exact List.forall_mem_map.mpr fun t ht ↦ hf t ht (hargs t ht)

theorem allRegular_renameFree (hb : b ≠ "") {t : Tree} (h : t.AllRegular known) :
    (t.renameFree a b).AllRegular known := by
  -- a lambda that has the parameter is left as it is, the other lambdas lose no placeholder
  have hlambda : ∀ {params : List String} {tool : String} {args : List Tree},
      (∀ t ∈ args, t.AllRegular known → (t.renameFree a b).AllRegular known) →
      (Node.lambda params tool args).AllRegular known →
      (Node.lambda params tool
        (if a ∈ params then args else Node.renameFreeAll a b args)).AllRegular known := by
    intro params tool args ih h
    split
    · exact h
    · next ha =>
      obtain ⟨hrule, hcall⟩ := Node.allRegular_lambda.mp h
      refine Node.allRegular_lambda.mpr ⟨?_, ?_⟩
      · rw [boundLeavesAll_renameFreeAll]
        exact checkLambda_renamed_of_not_mem ha hrule
      · rw [Node.renameFreeAll_eq_map]
        exact allRegular_call_map hcall ih
  induction t using Node.induct with
  | value name literal =>
    rw [Node.renameFree, Node.allRegular_value, renamed]
    split
    · exact hb
    · exact Node.allRegular_value.mp h
  | call tool args ih =>
    rw [Node.renameFree, Node.renameFreeAll_eq_map]
    exact allRegular_call_map h ih
  | program heading body ih =>
    rw [Node.renameFree, Node.renameFreeAll_eq_map, Node.allRegular_program, List.forall_mem_map]
    exact fun t ht ↦ ih t ht (Node.allRegular_program.mp h t ht)
  | cond test yes iht ihy =>
    obtain ⟨ht, hy, -⟩ := Node.allRegular_cond.mp h
    exact Node.allRegular_cond.mpr ⟨iht ht, ihy hy, nofun⟩
  | condElse test yes no iht ihy ihn =>
    obtain ⟨ht, hy, hn⟩ := Node.allRegular_cond.mp h
    exact Node.allRegular_cond.mpr
      ⟨iht ht, ihy hy, fun _ hx ↦ Option.mem_some.mp hx ▸ ihn (hn no rfl)⟩
  | lambda params tool args ih => exact hlambda ih h
  | listOp op params tool args items ih ihi =>
    obtain ⟨harity, hfun, hitems⟩ := Node.allRegular_over.mp h
    exact Node.allRegular_over.mpr ⟨harity, hlambda ih hfun, ihi hitems⟩
  | bare => exact h

/-- The list operation whose parameter is renamed is as regular as before. -/
theorem allRegular_renameParam (hb : b ≠ "") {op : ListOp} {params : List String} {tool : String}
    {args : List Tree} {items : Tree} (hparams : b ∉ params)
    (h : (Node.over op params tool args items).AllRegular known) :
    ((Node.over op params tool args items).renameParam a b).AllRegular known := by
  obtain ⟨harity, hfun, hitems⟩ := Node.allRegular_over.mp h
  obtain ⟨hrule, hcall⟩ := Node.allRegular_lambda.mp hfun
  refine Node.allRegular_over.mpr ⟨?_, Node.allRegular_lambda.mpr ⟨?_, ?_⟩, hitems⟩
  · rwa [List.length_map]
  · rw [boundLeavesAll_renameFreeAll]
    exact checkLambda_renamed hparams hrule
  · rw [Node.renameFreeAll_eq_map]
    exact allRegular_call_map hcall fun t _ ↦ allRegular_renameFree hb

end

/-! ## In the scope of the parameter -/

theorem firstLeaf?_renameFree {a b x : String} (hxa : x ≠ a) (hxb : x ≠ b) (t : Tree) :
    firstLeaf? x (t.renameFree a b).nodes = firstLeaf? x t.nodes := by
  have hargs : ∀ {params : List String} {args : List Tree},
      (∀ t ∈ args, firstLeaf? x (t.renameFree a b).nodes = firstLeaf? x t.nodes) →
      firstLeaf? x (Node.nodesAll (if a ∈ params then args else Node.renameFreeAll a b args)) =
        firstLeaf? x (Node.nodesAll args) := by
    intro params args ih
    split
    · rfl
    · rw [Node.renameFreeAll_eq_map, firstLeaf?_nodesAll_map ih]
  induction t using Node.induct with
  | value name literal =>
    by_cases hname : name = a
    · simp [Node.renameFree, Node.nodes, firstLeaf?, hname, renamed_self, Ne.symm hxa, Ne.symm hxb]
    · rw [Node.renameFree, renamed_of_ne hname]
  | call tool args ih =>
    rw [Node.renameFree, Node.renameFreeAll_eq_map, firstLeaf?_nodes_eq rfl,
      firstLeaf?_nodes_eq rfl]
    exact firstLeaf?_nodesAll_map ih
  | program heading body ih =>
    rw [Node.renameFree, Node.renameFreeAll_eq_map, firstLeaf?_nodes_eq rfl,
      firstLeaf?_nodes_eq rfl]
    exact firstLeaf?_nodesAll_map ih
  | cond test yes iht ihy =>
    rw [Node.renameFree, firstLeaf?_nodes_eq rfl, firstLeaf?_nodes_eq rfl]
    simp only [Node.children, firstLeaf?_nodesAll_cons, iht, ihy]
  | condElse test yes no iht ihy ihn =>
    rw [Node.renameFree, firstLeaf?_nodes_eq rfl, firstLeaf?_nodes_eq rfl]
    simp only [Node.children, Option.toList, firstLeaf?_nodesAll_cons, iht, ihy, ihn]
  | lambda params tool args ih =>
    rw [Node.renameFree, firstLeaf?_lambda, firstLeaf?_lambda, hargs ih]
  | listOp op params tool args items ih ihi =>
    rw [Node.renameFree, firstLeaf?_nodes_eq rfl, firstLeaf?_nodes_eq rfl]
    simp only [Node.children, firstLeaf?_nodesAll_cons, firstLeaf?_lambda, hargs ih, ihi]
  | bare => rfl

/-- Two bindings differ in that the one has under `a` what the other has under `b`. -/
structure Bindings.Renamed (a b : String) (names names' : Bindings) : Prop where
  here : names.get? a = names'.get? b
  elsewhere : ∀ x, x ≠ a → x ≠ b → names.get? x = names'.get? x

/-- Below a lambda that has neither name as a parameter, bindings differ as around it. -/
theorem Bindings.Renamed.extend_zip {a b : String} {names names' : Bindings}
    (h : Bindings.Renamed a b names names') {params : List String} (ha : a ∉ params)
    (hb : b ∉ params) (vs : List Value) :
    Bindings.Renamed a b (names.extend (params.zip vs)) (names'.extend (params.zip vs)) where
  here := by
    rw [get?_extend_zip_of_not_mem ha, get?_extend_zip_of_not_mem hb, h.here]
  elsewhere x hxa hxb := get?_extend_congr (h.elsewhere x hxa hxb) _

section

variable {σ : Type} {p : Provider σ} {known : Signatures} {a b : String}

/-- The arguments below a lambda that has the parameter are not renamed; they do not see what is
bound to it around the lambda. -/
private theorem evalAll_of_mem {params : List String} (ha : a ∈ params) {vs : List Value}
    (hlen : params.length = vs.length) {args : List Tree} (happ : Node.lambdasAppliedAll args)
    (hfresh : ∀ t ∈ args, t.mentions b = false) {names names' : Bindings}
    (h : Bindings.Renamed a b names names') :
    evalAll p (names.extend (params.zip vs)) args =
      evalAll p (names'.extend (params.zip vs)) args := by
  refine evalAll_congr fun t ht ↦ eval_congr p (Node.lambdasAppliedAll_iff.mp happ t ht) ?_
  intro x literal hx
  by_cases hxa : x = a
  · rw [hxa]
    exact get?_extend_zip_of_mem hlen ha names names'
  · exact get?_extend_congr (h.elsewhere x hxa (Node.ne_of_mentions (hfresh t ht) hx)) _

/-- **Scope.** In the scope of the parameter the renamed tree evaluates, in bindings that are
renamed, as the tree did, if no reduce starts from the parameter. -/
theorem eval_renameFree {t : Tree} (happ : t.lambdasApplied) (hreg : t.AllRegular known)
    (hfresh : t.mentions b = false) (hreduce : t.reducesFrom a = false) {names names' : Bindings}
    (h : Bindings.Renamed a b names names') :
    eval p names t = eval p names' (t.renameFree a b) := by
  induction t using Node.induct generalizing names names' with
  | value name literal =>
    have hname : name ≠ b := Node.ne_of_mentions hfresh (Node.self_mem_nodes _)
    rw [Node.renameFree, eval, eval]
    by_cases ha : name = a
    · rw [ha, renamed_self, leafValue, leafValue, h.here]
    · rw [renamed_of_ne ha, leafValue_congr (h.elsewhere name ha hname)]
  | call tool args ih =>
    rw [Node.lambdasApplied, Node.lambdasAppliedAll_iff] at happ
    rw [Node.reducesFrom, Node.reducesFromAll_eq_false_iff] at hreduce
    have hargs := (Node.allRegular_call.mp hreg).2.2
    rw [Node.renameFree, eval, eval, Node.renameFreeAll_eq_map, List.length_map]
    rw [evalAll_map fun t ht ↦ ih t ht (happ t ht) (hargs t ht) (Node.mentions_of_mem hfresh
      (List.mem_cons_of_mem _ (Node.mem_nodesAll_of_mem ht t.self_mem_nodes))) (hreduce t ht) h]
  | program heading body ih =>
    rw [Node.lambdasApplied, Node.lambdasAppliedAll_iff] at happ
    rw [Node.reducesFrom, Node.reducesFromAll_eq_false_iff] at hreduce
    have hbody := Node.allRegular_program.mp hreg
    rw [Node.renameFree, eval, eval, Node.renameFreeAll_eq_map]
    rw [evalAll_map fun t ht ↦ ih t ht (happ t ht) (hbody t ht) (Node.mentions_of_mem hfresh
      (List.mem_cons_of_mem _ (Node.mem_nodesAll_of_mem ht t.self_mem_nodes))) (hreduce t ht) h]
  | cond test yes iht ihy =>
    rw [Node.lambdasApplied, Bool.and_eq_true] at happ
    rw [Node.reducesFrom, Bool.or_eq_false_iff] at hreduce
    obtain ⟨htest, hyes, -⟩ := Node.allRegular_cond.mp hreg
    rw [Node.renameFree, eval, eval,
      iht happ.1 htest (Node.mentions_of_mem hfresh (by simp [Node.nodes, test.self_mem_nodes]))
        hreduce.1 h,
      ihy happ.2 hyes (Node.mentions_of_mem hfresh (by simp [Node.nodes, yes.self_mem_nodes]))
        hreduce.2 h]
  | condElse test yes no iht ihy ihn =>
    rw [Node.lambdasApplied, Bool.and_eq_true, Bool.and_eq_true] at happ
    rw [Node.reducesFrom, Bool.or_eq_false_iff, Bool.or_eq_false_iff] at hreduce
    obtain ⟨htest, hyes, hno⟩ := Node.allRegular_cond.mp hreg
    rw [Node.renameFree, eval, eval,
      iht happ.1.1 htest (Node.mentions_of_mem hfresh (by simp [Node.nodes, test.self_mem_nodes]))
        hreduce.1.1 h,
      ihy happ.1.2 hyes (Node.mentions_of_mem hfresh (by simp [Node.nodes, yes.self_mem_nodes]))
        hreduce.1.2 h,
      ihn happ.2 (hno no rfl)
        (Node.mentions_of_mem hfresh (by simp [Node.nodes, no.self_mem_nodes])) hreduce.2 h]
  | lambda params tool args ih => exact absurd happ Node.not_lambdasApplied_lambda
  | listOp op params tool args items ih ihi =>
    rw [Node.lambdasApplied, Bool.and_eq_true] at happ
    rw [Node.reducesFrom, Bool.or_eq_false_iff, Bool.or_eq_false_iff] at hreduce
    obtain ⟨⟨hstart, hinner⟩, hitems⟩ := hreduce
    obtain ⟨harity, hfun, hregular⟩ := Node.allRegular_over.mp hreg
    have hargs := (Node.allRegular_call.mp (Node.allRegular_lambda.mp hfun).2).2.2
    have hlambda : .lambda params tool args ∈ (Node.over op params tool args items).nodes := by
      simp [Node.nodes]
    have hbound : b ∉ params := Node.not_mem_of_mentions hfresh hlambda
    have hfree : ∀ t ∈ args, t.mentions b = false := fun t ht ↦ Node.mentions_of_mem hfresh
      (by simp [Node.nodes, Node.mem_nodesAll_of_mem ht t.self_mem_nodes])
    -- the accumulator of a reduce is neither of the two names
    have hhead : op = .reduce → ∀ x ∈ params.head?, x ≠ a ∧ x ≠ b := by
      rintro rfl x hx
      refine ⟨?_, fun hxb ↦ hbound (hxb ▸ List.mem_of_mem_head? hx)⟩
      rintro rfl
      simp [Option.mem_def.mp hx] at hstart
    rw [Node.renameFree, eval, eval, ihi happ.2 hregular
      (Node.mentions_of_mem hfresh (by simp [Node.nodes, items.self_mem_nodes])) hitems h]
    refine congrArg _ (funext fun v ↦ congrArg _ (funext fun xs ↦ ?_))
    -- a nested lambda that has the parameter hides it and is left as it is
    by_cases ha : a ∈ params
    · rw [if_pos ha]
      refine runListOp_congr rfl (fun hop ↦ reduceStart?_congr (fun _ _ ↦ rfl) fun x hx _ _ ↦ ?_)
        (fun vs hvs ↦ ?_) xs
      · exact h.elsewhere x (hhead hop x hx).1 (hhead hop x hx).2
      · rw [evalAll_of_mem ha (harity.trans hvs.symm) happ.1 hfree h]
    · rw [if_neg ha, Node.renameFreeAll_eq_map, List.length_map]
      refine runListOp_congr rfl (fun hop ↦ reduceStart?_congr (fun x hx ↦ ?_) fun x hx _ _ ↦ ?_)
        (fun vs hvs ↦ ?_) xs
      · exact (firstLeaf?_nodesAll_map fun t _ ↦
          firstLeaf?_renameFree (hhead hop x hx).1 (hhead hop x hx).2 t).symm
      · exact h.elsewhere x (hhead hop x hx).1 (hhead hop x hx).2
      · have hscope : ∀ t ∈ args, t.reducesFrom a = false := by
          simpa [ha, Node.reducesFromAll_eq_false_iff] using hinner
        rw [evalAll_map fun t ht ↦ ih t ht (Node.lambdasAppliedAll_iff.mp happ.1 t ht) (hargs t ht)
          (hfree t ht) (hscope t ht) (h.extend_zip ha hbound vs)]
  | bare => rfl

/-! ## At the lambda whose parameter is renamed -/

theorem lookup_renamed {l : List (String × Value)} (hl : ∀ e ∈ l, e.1 ≠ b) {x : String}
    (hx : x ≠ b) : (l.map (Prod.map (renamed a b) id)).lookup (renamed a b x) = l.lookup x := by
  induction l with
  | nil => rfl
  | cons e l ih =>
    obtain ⟨he, hl⟩ := List.forall_mem_cons.mp hl
    rw [List.map_cons, List.lookup_cons, List.lookup_cons, ih hl, Prod.map_fst, Prod.map_snd, id]
    by_cases hxe : x = e.1
    · rw [hxe, beq_self_eq_true, beq_self_eq_true]
    · have hne : renamed a b x ≠ renamed a b e.1 := fun h ↦ hxe (renamed_inj hx he h)
      rw [beq_false_of_ne hxe, beq_false_of_ne hne]

/-- The parameters of the renamed lambda are bound to the same values as those of the lambda. -/
theorem renamed_extend_zip {params : List String} (ha : a ∈ params) (hb : b ∉ params)
    {vs : List Value} (hlen : params.length = vs.length) (names : Bindings) :
    Bindings.Renamed a b (names.extend (params.zip vs))
      (names.extend ((params.map (renamed a b)).zip vs)) := by
  have hkeys : ∀ e ∈ (params.zip vs).reverse, e.1 ≠ b := by
    intro e he heb
    exact hb (heb ▸ (List.of_mem_zip (List.mem_reverse.mp he)).1)
  have hab : a ≠ b := fun h ↦ hb (h ▸ ha)
  rw [List.zip_map_left]
  constructor
  · obtain ⟨v, hv⟩ := Option.isSome_iff_exists.mp (lookup_reverse_zip_isSome hlen ha)
    have hsame := lookup_renamed (a := a) hkeys hab
    rw [renamed_self] at hsame
    rw [get?_extend, get?_extend, ← List.map_reverse, hsame, hv, Option.some_or, Option.some_or]
  · intro x hxa hxb
    have hsame := lookup_renamed (a := a) hkeys hxb
    rw [renamed_of_ne hxa] at hsame
    rw [get?_extend, get?_extend, ← List.map_reverse, hsame]

/-- The list operation whose parameter is renamed evaluates as before in bindings where a reduce
starts from the same value. -/
theorem eval_renameParam {op : ListOp} {params : List String} {tool : String} {args : List Tree}
    {items : Tree} (happ : (Node.over op params tool args items).lambdasApplied)
    (hreg : (Node.over op params tool args items).AllRegular known)
    (hfresh : (Node.over op params tool args items).mentions b = false) (ha : a ∈ params)
    (hreduce : Node.reducesFromAll a args = false) {names : Bindings}
    (hstart : op = .reduce → reduceStart? names params (Node.nodesAll args) =
      reduceStart? names (params.map (renamed a b))
        (Node.nodesAll (Node.renameFreeAll a b args))) :
    eval p names (.over op params tool args items) =
      eval p names ((Node.over op params tool args items).renameParam a b) := by
  rw [Node.lambdasApplied, Bool.and_eq_true, Node.lambdasAppliedAll_iff] at happ
  rw [Node.reducesFromAll_eq_false_iff] at hreduce
  obtain ⟨harity, hfun, -⟩ := Node.allRegular_over.mp hreg
  have hargs := (Node.allRegular_call.mp (Node.allRegular_lambda.mp hfun).2).2.2
  have hlambda : .lambda params tool args ∈ (Node.over op params tool args items).nodes := by
    simp [Node.nodes]
  have hbound : b ∉ params := Node.not_mem_of_mentions hfresh hlambda
  rw [Node.renameParam, eval, eval]
  refine congrArg _ (funext fun v ↦ congrArg _ (funext fun xs ↦ ?_))
  refine runListOp_congr (by rw [List.length_map]) hstart (fun vs hvs ↦ ?_) xs
  rw [Node.renameFreeAll_eq_map, List.length_map]
  rw [evalAll_map fun t ht ↦ eval_renameFree (happ.1 t ht) (hargs t ht)
    (Node.mentions_of_mem hfresh
      (by simp [Node.nodes, Node.mem_nodesAll_of_mem ht t.self_mem_nodes]))
    (hreduce t ht) (renamed_extend_zip ha hbound (harity.trans hvs.symm) names)]

end

/-! ## Where reduces start -/

/-- A reduce with accumulator `a` around the missing part finds the same placeholder with either
part. It need not, if it reads `a` in the bindings around it. -/
def Frame.KeepsStart (a : String) (outer : List String) (t u : Tree) : Frame → Prop
  | .overBody .reduce params _ before after _ => params.head? = some a → a ∉ outer →
      firstLeaf? a (Node.nodesAll (before ++ t :: after)) =
        firstLeaf? a (Node.nodesAll (before ++ u :: after))
  | _ => True

/-- All reduces with accumulator `a` around a place find the same placeholder with either part in
it. -/
def Place.KeepsStart (a : String) (outer : List String) (t u : Tree) : Place → Prop
  | .here => True
  | .under f C =>
    f.KeepsStart a outer (C.fill t) (C.fill u) ∧ C.KeepsStart a (f.bound ++ outer) t u

/-- The ways in which renaming a parameter changes where a reduce starts. -/
inductive StartChange where
  /-- A reduce in the scope of the parameter starts from it. -/
  | inner
  /-- The parameter is an accumulator and bound around its reduce. -/
  | bound
  /-- The parameter is an accumulator, and a placeholder of another lambda comes before its own. -/
  | own
  /-- A reduce around the lambda takes a leaf of the lambda for its placeholder. -/
  | around

/-- Renaming the parameter `a` of the lambda of a list operation to `b` changes nothing in the given
way. -/
def StartChange.Excluded (a b : String) (C : Place) (op : ListOp) (params : List String)
    (tool : String) (args : List Tree) (items : Tree) : StartChange → Prop
  | .inner => Node.reducesFromAll a args = false
  | .bound => op = .reduce → params.head? = some a → a ∉ C.bound []
  | .own => op = .reduce → params.head? = some a → firstLeaf? a (Node.nodesAll args) =
      firstLeaf? b (Node.nodesAll (Node.renameFreeAll a b args))
  | .around => C.KeepsStart a [] (.over op params tool args items)
      ((Node.over op params tool args items).renameParam a b)

/-- Renaming the parameter `a` of the lambda of a list operation to `b` does not change where a
reduce starts. -/
def StartsKept (a b : String) (C : Place) (op : ListOp) (params : List String) (tool : String)
    (args : List Tree) (items : Tree) : Prop :=
  ∀ way : StartChange, way.Excluded a b C op params tool args items

section

variable {a b : String} {known : Signatures}

theorem reduceStart?_of_bound {names : Bindings} {params : List String} {x : String} {v : Value}
    {leaves : List Tree} (hx : params.head? = some x) (hv : names.get? x = some v)
    (hleaf : (firstLeaf? x leaves).isSome) : reduceStart? names params leaves = some v := by
  obtain ⟨literal, hl⟩ := Option.isSome_iff_exists.mp hleaf
  rw [reduceStart?, hx, Option.bind_some, hl, Option.map_some, leafValue, hv, Option.getD_some]

theorem Frame.startsAlike {f : Frame} {t u : Tree} {outer : List String}
    (ht : (f.fill t).AllRegular known) (hu : (f.fill u).AllRegular known)
    (hfresh : (f.fill t).mentions b = false)
    (hleaf : ∀ x, x ≠ a → x ≠ b → firstLeaf? x t.nodes = firstLeaf? x u.nodes)
    (hkeep : f.KeepsStart a outer t u) : f.StartsAlike outer t u := by
  match f with
  | .overBody .reduce params tool before after items =>
    intro names hnames
    have hplaceholder : ∀ {args : List Tree},
        (Node.over .reduce params tool args items).AllRegular known → ∀ x ∈ params,
          (firstLeaf? x (Node.nodesAll args)).isSome := fun h x hx ↦
      firstLeaf?_isSome_of_checkLambda
        (Node.allRegular_lambda.mp (Node.allRegular_over.mp h).2.1).1 hx
    cases hhead : params.head? with
    | none => rw [reduceStart?, reduceStart?, hhead, Option.bind_none, Option.bind_none]
    | some x =>
      have hx : x ∈ params := List.mem_of_mem_head? hhead
      have hlambda : .lambda params tool (before ++ t :: after) ∈
          ((Frame.overBody .reduce params tool before after items).fill t).nodes := by
        simp [Frame.fill, Node.nodes]
      have hxb : x ≠ b := fun h ↦ Node.not_mem_of_mentions hfresh hlambda (h ▸ hx)
      by_cases hxa : x = a
      · by_cases hbound : a ∈ outer
        · -- the accumulator is read from outside, whatever its placeholder
          obtain ⟨v, hv⟩ := Option.isSome_iff_exists.mp ((hnames a).mpr hbound)
          rw [← hxa] at hv
          rw [reduceStart?_of_bound hhead hv (hplaceholder ht x hx),
            reduceStart?_of_bound hhead hv (hplaceholder hu x hx)]
        · refine reduceStart?_congr (fun y hy ↦ ?_) fun _ _ _ _ ↦ rfl
          obtain rfl : x = y := Option.some.inj (hhead.symm.trans hy)
          rw [hxa] at hhead ⊢
          exact hkeep hhead hbound
      · refine reduceStart?_congr (fun y hy ↦ ?_) fun _ _ _ _ ↦ rfl
        obtain rfl : x = y := Option.some.inj (hhead.symm.trans hy)
        exact firstLeaf?_exchange (hleaf x hxa hxb) before after
  | .overBody .map .. | .overBody .filter .. => trivial
  | .call .. | .program .. | .condTest .. | .condYes .. | .condNo .. | .overItems .. => trivial

theorem Place.startsAlike {C : Place} {t u : Tree} {outer : List String}
    (ht : (C.fill t).AllRegular known) (hu : (C.fill u).AllRegular known)
    (hfresh : (C.fill t).mentions b = false)
    (hleaf : ∀ x, x ≠ a → x ≠ b → firstLeaf? x t.nodes = firstLeaf? x u.nodes)
    (hkeep : C.KeepsStart a outer t u) : C.StartsAlike outer t u := by
  induction C generalizing outer with
  | here => trivial
  | under f C ih =>
    refine ⟨f.startsAlike ht hu hfresh (fun x hxa hxb ↦ C.firstLeaf?_fill (hleaf x hxa hxb))
      hkeep.1, ih ?_ ?_ (Node.mentions_of_mem hfresh (f.mem_nodes_fill _)) hkeep.2⟩
    · exact fun n hn ↦ ht n (Node.nodes_trans (f.mem_nodes_fill _) hn)
    · exact fun n hn ↦ hu n (Node.nodes_trans (f.mem_nodes_fill _) hn)

theorem firstLeaf?_nodesAll_renameFreeAll {x : String} (hxa : x ≠ a) (hxb : x ≠ b)
    (ts : List Tree) : firstLeaf? x (Node.nodesAll (Node.renameFreeAll a b ts)) =
      firstLeaf? x (Node.nodesAll ts) := by
  rw [Node.renameFreeAll_eq_map]
  exact firstLeaf?_nodesAll_map fun t _ ↦ firstLeaf?_renameFree hxa hxb t

/-- A reduce whose parameter is renamed starts from the same value, if it is not the accumulator or
both names are read from placeholders. -/
theorem reduceStart?_renameParam {names : Bindings} {params : List String} {args : List Tree}
    (hb : b ∉ params) (hunbound : names.get? b = none)
    (hown : params.head? = some a → names.get? a = none ∧ firstLeaf? a (Node.nodesAll args) =
      firstLeaf? b (Node.nodesAll (Node.renameFreeAll a b args))) :
    reduceStart? names params (Node.nodesAll args) =
      reduceStart? names (params.map (renamed a b))
        (Node.nodesAll (Node.renameFreeAll a b args)) := by
  rw [reduceStart?, reduceStart?, List.head?_map]
  cases hhead : params.head? with
  | none => rfl
  | some x =>
    rw [Option.map_some, Option.bind_some, Option.bind_some]
    have hxb : x ≠ b := fun h ↦ hb (h ▸ List.mem_of_mem_head? hhead)
    by_cases hxa : x = a
    · obtain ⟨ha, hleaf⟩ := hown (hxa ▸ hhead)
      have hvalue : leafValue names a = leafValue names b := by
        funext literal
        rw [leafValue, leafValue, ha, hunbound]
      rw [hxa, renamed_self, hleaf, hvalue]
    · rw [renamed_of_ne hxa, firstLeaf?_nodesAll_renameFreeAll hxa hxb]

theorem firstLeaf?_renameParam {x : String} (hxa : x ≠ a) (hxb : x ≠ b) (op : ListOp)
    (params : List String) (tool : String) (args : List Tree) (items : Tree) :
    firstLeaf? x (Node.over op params tool args items).nodes =
      firstLeaf? x ((Node.over op params tool args items).renameParam a b).nodes := by
  rw [Node.renameParam, firstLeaf?_nodes_eq rfl, firstLeaf?_nodes_eq rfl]
  simp only [Node.children, firstLeaf?_nodesAll_cons, firstLeaf?_lambda,
    firstLeaf?_nodesAll_renameFreeAll hxa hxb]

end

/-- **Renaming a parameter.** In an accepted program whose lambdas are all applied by list
operations, every lambda stands in some place. Renaming one of its parameters to a name that occurs
nowhere in the program gives a program that is accepted too. It does the same with every provider,
in results, faults and tool calls, provided that no reduce changes where it starts. -/
theorem parse_and_run_renameParam {v : Value} {t : Tree} (h : parse v = .ok t)
    (happ : t.lambdasApplied) :
    (∀ params tool args, .lambda params tool args ∈ t.nodes →
      ∃ C op items, t = Place.fill C (.over op params tool args items)) ∧
    ∀ C op params tool args items, t = Place.fill C (.over op params tool args items) →
      ∀ a ∈ params, ∀ b, b ≠ "" → t.mentions b = false →
        parse (C.fill ((Node.over op params tool args items).renameParam a b)).toValue =
          .ok (C.fill ((Node.over op params tool args items).renameParam a b)) ∧
        (StartsKept a b C op params tool args items → ∀ {σ : Type} (p : Provider σ),
          run p (C.fill ((Node.over op params tool args items).renameParam a b)) = run p t) := by
  obtain ⟨hprogram, hreg⟩ := allRegular_of_parse h
  refine ⟨fun params tool args hn ↦ exists_place_of_lambda happ hn, ?_⟩
  rintro C op params tool args items rfl a ha b hb hfresh
  have hsite := C.mem_nodes_fill (.over op params tool args items)
  have hreg' : (Node.over op params tool args items).AllRegular [] :=
    fun n hn ↦ hreg n (Node.nodes_trans hsite hn)
  have hfresh' := Node.mentions_of_mem hfresh hsite
  have hlambda : .lambda params tool args ∈ (Node.over op params tool args items).nodes := by
    simp [Node.nodes]
  -- the new name occurs nowhere, so it is no parameter of this lambda or of one around it
  have hparams : b ∉ params := Node.not_mem_of_mentions hfresh' hlambda
  have hrenamed : (C.fill ((Node.over op params tool args items).renameParam a b)).AllRegular [] :=
    C.allRegular_fill hreg (allRegular_renameParam hb hparams hreg') rfl
  constructor
  · exact parse_toValue_of_allRegular (C.isProgram_fill rfl hprogram) hrenamed
  · intro hstarts σ p
    have hbound : b ∉ C.bound [] := by
      intro hmem
      obtain hmem | ⟨params', tool', args', hmem, hn⟩ := Place.exists_lambda_of_mem_bound hmem
        (.over op params tool args items)
      · exact absurd hmem List.not_mem_nil
      · exact Node.not_mem_of_mentions hfresh hn hmem
    refine (Place.eval_fill hreg (C.startsAlike hreg hrenamed hfresh (fun x hxa hxb ↦
      firstLeaf?_renameParam hxa hxb op params tool args items) (hstarts .around))
      (fun names hnames ↦ ?_) binds_nil).symm
    have hunbound : ∀ x, x ∉ C.bound [] → names.get? x = none := fun x hx ↦ by
      simpa using mt (hnames x).mp hx
    refine eval_renameParam (C.lambdasApplied_of_fill happ) hreg' hfresh' ha (hstarts .inner)
      fun hop ↦ ?_
    refine reduceStart?_renameParam hparams (hunbound b hbound) fun hhead ↦ ?_
    exact ⟨hunbound a (hstarts .bound hop hhead), hstarts .own hop hhead⟩

/-- The accumulator of a reduce whose body holds a map and a choice is renamed. -/
theorem parse_and_run_renameParam_sumOfHalves :
    parse sumOfHalves.toValue = .ok sumOfHalves ∧ sumOfHalves.lambdasApplied ∧
    ∃ t : Tree, t = .program ⟨.single, none, none⟩ [
      .over .reduce ["sum", "row"] "add" [
        .over .map ["x"] "half" [.value "x" .null] (.value "row" .null),
        .cond (.value "sum" .null) (.value "sum" .null) none]
        (.value "rows" (.list [.list [.int 2], .list [.int 4, .int 6]]))] ∧
      parse t.toValue = .ok t ∧ ∀ {σ : Type} (p : Provider σ), run p t = run p sumOfHalves := by
  have h : parse sumOfHalves.toValue = .ok sumOfHalves :=
    parse_toValue (by decide) (by decide) (by cbv)
  have hrename := (parse_and_run_renameParam h rfl).2
    (.under (.program ⟨.single, none, none⟩ [] []) .here) _ _ _ _ _ rfl "acc" (by decide) "sum"
    (by decide) (by decide)
  refine ⟨h, rfl, _, ?_, hrename.1, hrename.2 fun way ↦ ?_⟩
  · rfl
  · cases way with
    | inner => rfl
    | bound => exact fun _ _ ↦ by decide
    | own => exact fun _ _ ↦ rfl
    | around => exact ⟨trivial, trivial⟩

/-- Adding tools. -/
def sums : Toolbox where
  tools := [⟨"add", SmallTool.metadataOf "add" [("a", none), ("b", none)], .sum⟩,
    ⟨"add3", SmallTool.metadataOf "add3" [("a", none), ("b", none), ("c", none)], .sum⟩]
  lookUp := .direct

/-- Renaming the parameter `acc` to `total` in an accepted program changes what the program gives,
and of all the ways in which it could do so, only one is not excluded. -/
structure ChangesBy (way : StartChange) (C : Place) (op : ListOp) (params : List String)
    (tool : String) (args : List Tree) (items : Tree) (before after : Value) : Prop where
  accepted : parse (C.fill (.over op params tool args items)).toValue =
    .ok (C.fill (.over op params tool args items))
  applied : (C.fill (.over op params tool args items)).lambdasApplied
  param : "acc" ∈ params
  fresh : (C.fill (.over op params tool args items)).mentions "total" = false
  others : ∀ other, other ≠ way → other.Excluded "acc" "total" C op params tool args items
  result : (run sums.provider (C.fill (.over op params tool args items)) none).result = .ok before
  renamed : (run sums.provider
    (C.fill ((Node.over op params tool args items).renameParam "acc" "total")) none).result =
      .ok after

/-- The whole of a program. -/
def wholeProgram : Place := .under (.program ⟨.single, none, none⟩ [] []) .here

/-- Among the numbers that a reduce adds up in each step. -/
def amongSummands (before after : List Tree) : Place :=
  .under (.program ⟨.single, none, none⟩ [] []) (.under (.overBody .reduce ["acc", "x"] "add3"
    before after (.value "xs" (.list [.int 1, .int 2]))) .here)

/-- The sum of two numbers. -/
def innerSum (acc y : String) : Tree :=
  .over .reduce [acc, y] "add" [.value acc .null, .value y .null]
    (.value "ys" (.list [.int 10, .int 20]))

/-- **Names that are used twice show**, in each of the four ways. There are two programs, each a
reduce with a sum in its body. In the first one both have an accumulator `acc`, and the inner sum
starts from that of the outer one: renaming either of them changes this. In the second one the inner
sum has a null leaf `acc` of its own, and the outer reduce takes it for its placeholder, which is a
number: again renaming either of them changes this. -/
theorem run_renameParam_changes :
    ChangesBy .bound (amongSummands [.value "acc" .null, .value "x" .null] []) .reduce ["acc", "y"]
      "add" [.value "acc" .null, .value "y" .null] (.value "ys" (.list [.int 10, .int 20]))
      (.int 34) (.int 33) ∧
    ChangesBy .inner wholeProgram .reduce ["acc", "x"] "add3"
      [.value "acc" .null, .value "x" .null, innerSum "acc" "y"]
      (.value "xs" (.list [.int 1, .int 2])) (.int 34) (.int 33) ∧
    ChangesBy .around (amongSummands [] [.value "acc" (.int 100), .value "x" .null]) .reduce
      ["sum", "acc"] "add" [.value "sum" .null, .value "acc" .null]
      (.value "ys" (.list [.int 10, .int 20])) (.int 33) (.int 163) ∧
    ChangesBy .own wholeProgram .reduce ["acc", "x"] "add3"
      [innerSum "sum" "acc", .value "acc" (.int 100), .value "x" .null]
      (.value "xs" (.list [.int 1, .int 2])) (.int 33) (.int 163) := by
  refine ⟨?bound, ?inner, ?around, ?own⟩
  case bound =>
    refine ⟨parse_toValue (by decide) (by decide) (by cbv), rfl, by decide, by decide, ?_, by cbv,
      by cbv⟩
    intro other hother
    cases other with
    | inner => rfl
    | bound => exact absurd rfl hother
    | own => exact fun _ _ ↦ rfl
    | around => exact ⟨trivial, fun _ _ ↦ rfl, trivial⟩
  case inner =>
    refine ⟨parse_toValue (by decide) (by decide) (by cbv), rfl, by decide, by decide, ?_, by cbv,
      by cbv⟩
    intro other hother
    cases other with
    | inner => exact absurd rfl hother
    | bound => exact fun _ _ ↦ by decide
    | own => exact fun _ _ ↦ rfl
    | around => exact ⟨trivial, trivial⟩
  case around =>
    refine ⟨parse_toValue (by decide) (by decide) (by cbv), rfl, by decide, by decide, ?_, by cbv,
      by cbv⟩
    intro other hother
    cases other with
    | inner => rfl
    | bound => exact fun _ hhead ↦ absurd hhead (by decide)
    | own => exact fun _ hhead ↦ absurd hhead (by decide)
    | around => exact absurd rfl hother
  case own =>
    refine ⟨parse_toValue (by decide) (by decide) (by cbv), rfl, by decide, by decide, ?_, by cbv,
      by cbv⟩
    intro other hother
    cases other with
    | inner => rfl
    | bound => exact fun _ _ ↦ by decide
    | own => exact absurd rfl hother
    | around => exact ⟨trivial, trivial⟩

end CallTree
