import CallTree.Proofs.Collecting
import CallTree.Proofs.Signatures

/-!
# The check is local

Each kind of node has a rule that speaks of the node alone. A call has as many arguments as its tool
is known to have parameters. The parameters of a lambda are distinct, each of them names a leaf of
the body, and each null leaf of the body is named by one of them. The lambda of a list operation has
as many parameters as the operation needs. `Node.Keeps` says this without the functions that check
it, and `Node.Breaks` says which reason is given for a node that breaks its rule.

The check walks a tree by a recursion of its own, and a visit does by another one. Both meet the
same nodes in the same order (`check_eq_forM`, `visited_eq_nodes`). So a program is accepted exactly
when all nodes that a visit meets keep their rules, and the reason for which it is refused is that
of the first one that does not (`parseWith_local`).
-/

namespace CallTree

/-! ## The nodes that a visit meets -/

section

variable {α ε : Type}

/-- A visitor that never stops and writes down the nodes it is shown. -/
def writingDown : Visitor α (List (Node α)) ε := fun n seen ↦ (.ok (), seen ++ [n])

/-- The nodes that a visit meets, in order. -/
def Node.visited (t : Node α) : List (Node α) :=
  (visit (writingDown : Visitor α (List (Node α)) Empty) t []).2

theorem visitEach_writingDown (ns seen : List (Node α)) :
    visitEach (writingDown : Visitor α (List (Node α)) ε) ns seen = (.ok (), seen ++ ns) := by
  induction ns generalizing seen with
  | nil => rw [visitEach, List.append_nil]
  | cons n ns ih =>
    show visitEach writingDown ns (seen ++ [n]) = _
    rw [ih, List.append_assoc, List.singleton_append]

theorem Node.visited_eq_nodes (t : Node α) : t.visited = t.nodes := by
  rw [visited, visit_eq_visitEach, visitEach_writingDown, List.nil_append]

end

/-! ## The rules of nodes -/

namespace Node

/-- The rule that a node keeps by itself. -/
def Keeps (known : Signatures) : Tree → Prop
  | .call tool args => ∀ params, known.lookup tool = some params → args.length = params.length
  | .lambda params _ args =>
    params.Nodup ∧ (∀ a ∈ params, ∃ l ∈ boundLeavesAll args, l.1 = a) ∧
      ∀ l ∈ boundLeavesAll args, l.2 = .null → l.1 ∈ params
  | .over op params _ _ _ => params.length = op.arity
  | _ => True

/-- The reason that is given for a node that breaks its rule. Parameters that name no leaf are
listed in their own order, null leaves without a parameter by name and each name once. They are
looked for only if the parameters are distinct. -/
inductive Breaks (known : Signatures) : Tree → Reason → Prop where
  | argumentCount {tool : String} {args : List Tree} {params : List String}
      (hknown : known.lookup tool = some params) (hcount : args.length ≠ params.length) :
      Breaks known (.call tool args) (.argumentCount tool params args.length)
  | repeatedParam {params : List String} {tool : String} {args : List Tree}
      (hparams : ¬ params.Nodup) : Breaks known (.lambda params tool args) .repeatedParam
  | binding {params : List String} {tool : String} {args : List Tree}
      {missing nulls : List String} (hparams : params.Nodup)
      (hmissing : missing = params.filter fun a ↦ decide (∀ l ∈ boundLeavesAll args, l.1 ≠ a))
      (hnulls : ∀ a, a ∈ nulls ↔ a ∉ params ∧ (a, .null) ∈ boundLeavesAll args)
      (hsorted : nulls.Pairwise (· < ·)) (hsome : missing ≠ [] ∨ nulls ≠ []) :
      Breaks known (.lambda params tool args) (.binding missing nulls)
  | paramCount {op : ListOp} {params : List String} {tool : String} {args : List Tree}
      {items : Tree} (hcount : params.length ≠ op.arity) :
      Breaks known (.over op params tool args items) (.paramCount op)

end Node

/-! ## Names in order -/

theorem pairwise_lt_eraseDups {names : List String} (h : names.Pairwise (· ≤ ·)) :
    names.eraseDups.Pairwise (· < ·) := by
  -- what stands behind the first name is filtered before it is worked on, so it is only shorter
  induction hn : names.length using Nat.strong_induction_on generalizing names with
  | h n ih =>
    cases names with
    | nil => exact List.Pairwise.nil
    | cons a names =>
      rw [List.eraseDups_cons]
      obtain ⟨hfirst, hrest⟩ := List.pairwise_cons.mp h
      refine List.pairwise_cons.mpr ⟨fun b hb ↦ ?_, ?_⟩
      · obtain ⟨hmem, hne⟩ := List.mem_filter.mp (List.mem_eraseDups.mp hb)
        have hne : b ≠ a := by simpa using hne
        exact lt_of_le_of_ne (hfirst b hmem) hne.symm
      · have hlt : (names.filter fun b ↦ !b == a).length < n := by
          rw [← hn, List.length_cons]
          exact Nat.lt_succ_of_le (List.length_filter_le _ _)
        exact ih _ hlt (hrest.filter _) rfl

theorem pairwise_lt_sortedNames (names : List String) :
    (sortedNames names).Pairwise (· < ·) := by
  have htrans : ∀ a b c : String, decide (a ≤ b) = true → decide (b ≤ c) = true →
      decide (a ≤ c) = true := by
    intro a b c hab hbc
    exact decide_eq_true (le_trans (of_decide_eq_true hab) (of_decide_eq_true hbc))
  have htotal : ∀ a b : String, (decide (a ≤ b) || decide (b ≤ a)) = true := by
    intro a b
    simpa using le_total a b
  refine pairwise_lt_eraseDups ?_
  exact (List.pairwise_mergeSort htrans htotal names).imp fun h ↦ of_decide_eq_true h

/-- Lists in order with the same members are the same. -/
theorem eq_of_pairwise_lt {xs ys : List String} (hxs : xs.Pairwise (· < ·))
    (hys : ys.Pairwise (· < ·)) (h : ∀ a, a ∈ xs ↔ a ∈ ys) : xs = ys := by
  have hperm : xs.Perm ys :=
    (List.perm_ext_iff_of_nodup (hxs.imp ne_of_lt) (hys.imp ne_of_lt)).mpr h
  exact hperm.eq_of_pairwise (fun a b _ _ hab hba ↦ absurd hba (lt_asymm hab)) hxs hys

/-! ## What the check of one node says -/

theorem isNull_iff {v : Value} : v.isNull = true ↔ v = .null := by
  cases v <;> simp [Value.isNull]

/-- The names of null leaves that are no parameters. -/
theorem mem_strayNulls_iff {params : List String} {leaves : List (String × Value)} {a : String} :
    a ∈ sortedNames ((leaves.filter fun l ↦ l.2.isNull && !params.contains l.1).map Prod.fst) ↔
      a ∉ params ∧ (a, .null) ∈ leaves := by
  rw [mem_sortedNames, List.mem_map]
  constructor
  · rintro ⟨l, hl, rfl⟩
    rw [List.mem_filter, Bool.and_eq_true, isNull_iff] at hl
    obtain ⟨hmem, hnull, hparams⟩ := hl
    exact ⟨by simpa using hparams, hnull ▸ hmem⟩
  · rintro ⟨hparams, hmem⟩
    exact ⟨(a, .null), List.mem_filter.mpr ⟨hmem, by simpa [Value.isNull] using hparams⟩, rfl⟩

theorem checkLambda_eq_error_iff {params : List String} {leaves : List (String × Value)}
    {reason : Reason} :
    checkLambda params leaves = .error reason ↔
      (¬ params.Nodup ∧ reason = .repeatedParam) ∨
      ∃ missing nulls, params.Nodup ∧
        missing = params.filter (fun a ↦ decide (∀ l ∈ leaves, l.1 ≠ a)) ∧
        (∀ a, a ∈ nulls ↔ a ∉ params ∧ (a, .null) ∈ leaves) ∧ nulls.Pairwise (· < ·) ∧
        (missing ≠ [] ∨ nulls ≠ []) ∧ reason = .binding missing nulls := by
  have hmissing : (params.filter fun p ↦ !leaves.any (·.1 == p)) =
      params.filter fun a ↦ decide (∀ l ∈ leaves, l.1 ≠ a) := by
    refine List.filter_congr fun a _ ↦ ?_
    rw [Bool.eq_iff_iff]
    simp
  rw [checkLambda, hmissing]
  generalize params.filter (fun a ↦ decide (∀ l ∈ leaves, l.1 ≠ a)) = missing
  have hnulls := fun a ↦ @mem_strayNulls_iff params leaves a
  have hsorted := pairwise_lt_sortedNames
    ((leaves.filter fun l ↦ l.2.isNull && !params.contains l.1).map Prod.fst)
  revert hnulls hsorted
  generalize sortedNames
    ((leaves.filter fun l ↦ l.2.isNull && !params.contains l.1).map Prod.fst) = nulls
  intro hnulls hsorted
  by_cases hparams : params.Nodup
  · simp only [hparams, decide_true, Bool.not_true, Bool.false_eq_true, if_false, not_true_eq_false,
      false_and, false_or, true_and, Bool.and_eq_true, List.isEmpty_iff]
    by_cases hempty : missing = [] ∧ nulls = []
    · rw [if_pos hempty]
      constructor
      · intro h
        cases h
      · rintro ⟨_, nulls', rfl, hmem, hlt, hsome, -⟩
        obtain rfl : nulls' = nulls := eq_of_pairwise_lt hlt hsorted fun a ↦
          (hmem a).trans (hnulls a).symm
        exact absurd hempty (by rwa [not_and_or])
    · rw [if_neg hempty]
      constructor
      · intro h
        exact ⟨missing, nulls, rfl, hnulls, hsorted, not_and_or.mp hempty,
          (Except.error.inj h).symm⟩
      · rintro ⟨_, nulls', rfl, hmem, hlt, -, rfl⟩
        obtain rfl : nulls' = nulls := eq_of_pairwise_lt hlt hsorted fun a ↦
          (hmem a).trans (hnulls a).symm
        rfl
  · rw [if_pos (by simpa using hparams)]
    constructor
    · intro h
      exact Or.inl ⟨hparams, (Except.error.inj h).symm⟩
    · rintro (⟨-, rfl⟩ | ⟨_, _, hnodup, -⟩)
      · rfl
      · exact absurd hnodup hparams

theorem checkNode_eq_ok_iff {known : Signatures} {n : Tree} :
    checkNode known n = .ok () ↔ n.Keeps known := by
  cases n with
  | call tool args =>
    rw [checkNode, checkCall_eq_ok_iff, Node.Keeps]
    exact forall_congr' fun params ↦ imp_congr_right fun _ ↦ eq_comm
  | lambda params tool args =>
    rw [checkNode, checkLambda_eq_ok_iff, Node.Keeps]
    simp only [isNull_iff]
  | «over» op params tool args items => exact checkOver_eq_ok_iff
  | _ => exact iff_of_true rfl trivial

theorem checkNode_eq_error_iff {known : Signatures} {n : Tree} {reason : Reason} :
    checkNode known n = .error reason ↔ n.Breaks known reason := by
  constructor
  · intro h
    cases n with
    | call tool args =>
      rw [checkNode, checkCall] at h
      split at h
      · next params hknown =>
        split at h
        · cases h
        · next hcount =>
          obtain rfl := Except.error.inj h
          exact .argumentCount hknown fun hlength ↦ hcount hlength.symm
      · cases h
    | lambda params tool args =>
      obtain ⟨hparams, rfl⟩ | ⟨missing, nulls, hparams, hmissing, hnulls, hsorted, hsome, rfl⟩ :=
        checkLambda_eq_error_iff.mp h
      · exact .repeatedParam hparams
      · exact .binding hparams hmissing hnulls hsorted hsome
    | «over» op params tool args items =>
      rw [checkNode, checkOver] at h
      split at h
      · cases h
      · next hcount =>
        obtain rfl := Except.error.inj h
        exact .paramCount hcount
    | _ => cases h
  · intro h
    cases h with
    | argumentCount hknown hcount =>
      simp only [checkNode, checkCall, hknown]
      exact if_neg fun hlength ↦ hcount hlength.symm
    | repeatedParam hparams => exact checkLambda_eq_error_iff.mpr (Or.inl ⟨hparams, rfl⟩)
    | binding hparams hmissing hnulls hsorted hsome =>
      exact checkLambda_eq_error_iff.mpr
        (Or.inr ⟨_, _, hparams, hmissing, hnulls, hsorted, hsome, rfl⟩)
    | paramCount hcount => exact if_neg hcount

/-! ## The whole check -/

theorem forM_eq_error_iff {ι ε : Type} {f : ι → Except ε Unit} {xs : List ι} {e : ε} :
    xs.forM f = .error e ↔ ∃ before x after, xs = before ++ x :: after ∧
      (∀ y ∈ before, f y = .ok ()) ∧ f x = .error e := by
  induction xs with
  | nil =>
    constructor
    · intro h
      cases h
    · rintro ⟨before, x, after, h, -⟩
      simp at h
  | cons x xs ih =>
    rw [List.forM_eq_forM, List.forM_cons]
    cases hx : f x with
    | error d =>
      constructor
      · intro h
        obtain rfl : d = e := Except.error.inj h
        exact ⟨[], x, xs, rfl, by simp, hx⟩
      · rintro ⟨_ | ⟨y, before⟩, z, after, h, hbefore, hz⟩
        · obtain ⟨rfl, -⟩ := List.cons.inj h
          rw [hx] at hz
          exact hz
        · obtain ⟨rfl, -⟩ := List.cons.inj h
          rw [hbefore x List.mem_cons_self] at hx
          cases hx
    | ok u =>
      show xs.forM f = .error e ↔ _
      rw [ih]
      constructor
      · rintro ⟨before, z, after, rfl, hbefore, hz⟩
        exact ⟨x :: before, z, after, rfl, List.forall_mem_cons.mpr ⟨hx, hbefore⟩, hz⟩
      · rintro ⟨_ | ⟨y, before⟩, z, after, h, hbefore, hz⟩
        · obtain ⟨rfl, -⟩ := List.cons.inj h
          rw [hx] at hz
          cases hz
        · obtain ⟨-, rfl⟩ := List.cons.inj h
          exact ⟨before, z, after, rfl, (List.forall_mem_cons.mp hbefore).2, hz⟩

theorem check_eq_ok_iff_keeps {known : Signatures} {t : Tree} :
    check known t = .ok () ↔ ∀ n ∈ t.visited, n.Keeps known := by
  rw [check_eq_ok_iff, Node.visited_eq_nodes]
  exact forall₂_congr fun n _ ↦ checkNode_eq_ok_iff

theorem check_eq_error_iff {known : Signatures} {t : Tree} {reason : Reason} :
    check known t = .error reason ↔ ∃ before n after, t.visited = before ++ n :: after ∧
      (∀ m ∈ before, m.Keeps known) ∧ n.Breaks known reason := by
  rw [check_eq_forM, forM_eq_error_iff, Node.visited_eq_nodes]
  simp only [checkNode_eq_ok_iff, checkNode_eq_error_iff]

/-- Checking a program is checking its body one node after another. -/
theorem check_program_eq_ok_iff {known : Signatures} {heading : Heading} {body : List Tree} :
    check known (.program heading body) = .ok () ↔ ∀ n ∈ body, check known n = .ok () := by
  simp only [check_eq_ok_iff]
  rw [Node.forall_mem_nodes_iff]
  exact and_iff_right rfl

/-! ## Reading a program -/

section

variable {known : Signatures} {v : Value} {t : Tree}

/-- A tree of the right shape is refused for a rule and for nothing else. -/
theorem parseWith_eq_error_iff (hv : Node.ofValue? v = some t) (hshape : t.isWellShaped = true)
    {f : ParseFault} :
    parseWith known v = .error f ↔ ∃ reason, f = .rule reason ∧ check known t = .error reason := by
  rw [parseWith, hv]
  simp only [hshape, if_true]
  cases check known t with
  | ok u => simp
  | error reason => simp [eq_comm]

/-- A program with one node of another for its body. -/
theorem parseWith_single_iff {heading : Heading} {body : List Tree}
    (hv : Node.ofValue? v = some (.program heading body))
    (hshape : (Node.program heading body).isWellShaped = true) {n : Tree} (hn : n ∈ body) :
    parseWith known (Node.program heading [n]).toValue = .ok (.program heading [n]) ↔
      check known n = .ok () := by
  have hnodes : ∀ m ∈ (Node.program heading [n]).nodes,
      m = .program heading [n] ∨ m ∈ (Node.program heading body).nodes := by
    intro m hm
    rw [Node.nodes_eq_cons, List.mem_cons] at hm
    refine hm.imp_right fun hbelow ↦ ?_
    obtain ⟨c, hc, hmc⟩ := Node.mem_nodesAll.mp hbelow
    rw [List.mem_singleton.mp hc] at hmc
    rw [Node.nodes_eq_cons]
    exact List.mem_cons_of_mem _ (Node.mem_nodesAll_of_mem hn hmc)
  have hnamed : (Node.program heading [n] : Tree).AllNamed := by
    intro m hm
    rcases hnodes m hm with rfl | hm
    · trivial
    · exact allNamed_of_ofValue? hv m hm
  have hsingle : (Node.program heading [n]).isWellShaped = true := by
    refine isWellShaped_iff.mpr ⟨rfl, fun m hm ↦ ?_⟩
    rcases hnodes m hm with rfl | hm
    · rintro ⟨⟩
    · exact (isWellShaped_iff.mp hshape).2 m hm
  rw [parseWith_eq_ok_iff, check_program_eq_ok_iff, List.forall_mem_singleton]
  constructor
  · exact fun h ↦ h.2.2
  · exact fun h ↦ ⟨nodeOfValue_toValue hnamed _, hsingle, h⟩

/-- **The check is local.** Let a value be the form of a tree of the right shape. It is accepted
exactly when every node that a visit of the tree meets keeps its own rule. It is refused exactly for
the reason of the first node, in the order of the visit, that breaks its rule. So a program is
accepted exactly when for each node of its body the program with that node alone is. -/
theorem parseWith_local (hv : Node.ofValue? v = some t) (hshape : t.isWellShaped = true) :
    (parseWith known v = .ok t ↔ ∀ n ∈ t.visited, n.Keeps known) ∧
    (∀ f, parseWith known v = .error f ↔ ∃ before n after reason,
      t.visited = before ++ n :: after ∧ (∀ m ∈ before, m.Keeps known) ∧
        n.Breaks known reason ∧ f = .rule reason) ∧
    ∀ heading body, t = .program heading body →
      (parseWith known v = .ok t ↔ ∀ n ∈ body,
        parseWith known (Node.program heading [n]).toValue = .ok (.program heading [n])) := by
  have haccepted : parseWith known v = .ok t ↔ check known t = .ok () := by
    rw [parseWith_eq_ok_iff]
    exact ⟨fun h ↦ h.2.2, fun h ↦ ⟨hv, hshape, h⟩⟩
  refine ⟨haccepted.trans check_eq_ok_iff_keeps, fun f ↦ ?_, ?_⟩
  · rw [parseWith_eq_error_iff hv hshape]
    constructor
    · rintro ⟨reason, rfl, h⟩
      obtain ⟨before, n, after, hsplit, hbefore, hn⟩ := check_eq_error_iff.mp h
      exact ⟨before, n, after, reason, hsplit, hbefore, hn, rfl⟩
    · rintro ⟨before, n, after, reason, hsplit, hbefore, hn, rfl⟩
      exact ⟨reason, rfl, check_eq_error_iff.mpr ⟨before, n, after, hsplit, hbefore, hn⟩⟩
  · rintro heading body rfl
    rw [haccepted, check_program_eq_ok_iff]
    exact forall₂_congr fun n hn ↦ (parseWith_single_iff hv hshape hn).symm

end

/-- A lambda with a parameter that names no leaf and a null leaf without a parameter, and behind it
a map whose lambda has one parameter too many and a call with one argument too few. -/
def misfits : Tree :=
  .program ⟨.single, none, none⟩ [
    .call "keep" [.lambda ["x"] "half" [.value "z" .null, .value "y" .null]],
    .over .map ["a", "b"] "add" [.value "a" .null] (.value "items" (.list [.int 4]))]

/-- The lambda is the third node of a visit and gives the reason; a program without misfits is
accepted. -/
theorem parseWith_local_misfits :
    parseWith addOrSameSignatures misfits.toValue =
      .error (.rule (.binding ["x"] ["y", "z"])) ∧
    (¬ ∀ n ∈ misfits.children,
      parseWith addOrSameSignatures (Node.program ⟨.single, none, none⟩ [n]).toValue =
        .ok (.program ⟨.single, none, none⟩ [n])) ∧
    ∀ n ∈ markedMap.visited, n.Keeps addOrSameSignatures := by
  obtain ⟨-, hreasons, hsingles⟩ := @parseWith_local addOrSameSignatures misfits.toValue misfits
    (nodeOfValue_toValue (by decide) _) (by decide)
  obtain ⟨haccepted, -⟩ := @parseWith_local addOrSameSignatures markedMap.toValue markedMap
    (nodeOfValue_toValue (by decide) _) (by decide)
  have hrefused : parseWith addOrSameSignatures misfits.toValue =
      .error (.rule (.binding ["x"] ["y", "z"])) := by
    refine (hreasons _).mpr ⟨[_, _], _, _, _, Node.visited_eq_nodes _, ?_, ?_, rfl⟩
    · refine List.forall_mem_cons.mpr ⟨trivial, List.forall_mem_singleton.mpr ?_⟩
      intro params hknown
      cases hknown
    · refine .binding (by decide) (by decide) ?_ (by decide) (by decide)
      intro a
      simp only [boundLeavesAll, boundLeaves, List.cons_append, List.nil_append, List.mem_cons,
        List.not_mem_nil, or_false, Prod.mk.injEq, and_true]
      constructor
      · rintro (rfl | rfl) <;> decide
      · rintro ⟨-, h⟩
        exact h.symm
  refine ⟨hrefused, fun h ↦ ?_, haccepted.mp (parseWith_toValue (by decide) (by decide) (by cbv))⟩
  have hok := (hsingles _ _ rfl).mpr h
  rw [hrefused] at hok
  cases hok

end CallTree
