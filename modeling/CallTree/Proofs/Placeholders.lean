import CallTree.Proofs.Accepted
import CallTree.Proofs.Names

/-!
# The placeholders of a lambda

A null leaf in the body of a lambda is a placeholder: it stands for what will be bound to its name.
The check looks for placeholders with a recursion of its own, which has a rule for each kind of
node; `Node.Sees` says in general which nodes are seen from a node when one does not look past nodes
of some kind. The nearest lambda around a leaf is the one from which the leaf is seen when one does
not look past lambdas.

The check looks past neither lambdas nor programs (`mem_boundLeaves_of_sees`). Lambdas are checked
by themselves, so nothing is lost there, and all placeholders of a lambda outside of programs are
named by its parameters. Once these are bound, the nulls are not read at all: any other literals in
their place give the same evaluation (`placeholders_bound`). A placeholder in a program in the body
of a lambda is not looked for, and its null may get through to a tool
(`placeholder_in_program_unbound`).
-/

namespace CallTree

namespace Node

variable {α : Type}

/-- Whether a node is a lambda. -/
def isLambda : Node α → Bool
  | .lambda _ _ _ => true
  | _ => false

/-- A node is below another one, or is it, and neither it nor a node on the way to it is of a kind
that one does not look past. -/
inductive Sees (stop : Node α → Bool) : Node α → Node α → Prop where
  | refl (n : Node α) : Sees stop n n
  | child {n c m : Node α} (hc : c ∈ n.children) (hstop : stop c = false) (h : Sees stop c m) :
      Sees stop n m

theorem sees_iff {stop : Node α → Bool} {n m : Node α} :
    n.Sees stop m ↔ n = m ∨ ∃ c ∈ n.children, stop c = false ∧ c.Sees stop m := by
  constructor
  · intro h
    cases h with
    | refl => exact Or.inl rfl
    | child hc hstop h => exact Or.inr ⟨_, hc, hstop, h⟩
  · rintro (rfl | ⟨c, hc, hstop, h⟩)
    · exact .refl n
    · exact .child hc hstop h

end Node

/-! ## What the check sees -/

/-- What the check does not look past: lambdas and programs. -/
def Node.stopsCheck (n : Tree) : Bool := n.isLambda || n.isProgram

theorem mem_boundLeaves_of_child {l : String × Value} {t c : Tree} (ht : t.stopsCheck = false)
    (hc : c ∈ t.children) (hl : l ∈ boundLeaves c) : l ∈ boundLeaves t := by
  cases t with
  | value name literal => simp [Node.children] at hc
  | call tool args =>
    rw [boundLeaves, boundLeavesAll_eq_flatMap, List.mem_flatMap]
    exact ⟨c, hc, hl⟩
  | program heading body => simp [Node.stopsCheck, Node.isProgram] at ht
  | cond test yes no =>
    cases no <;> simp only [Node.children, Option.toList, List.mem_cons, List.not_mem_nil,
      or_false] at hc
    · obtain rfl | rfl := hc <;> simp [boundLeaves, hl]
    · obtain rfl | rfl | rfl := hc <;> simp [boundLeaves, hl]
  | lambda params tool args => simp [Node.stopsCheck, Node.isLambda] at ht
  | «over» op params tool args items =>
    -- the check finds nothing in the lambda of a list operation, so the leaf is one of the items
    simp only [Node.children, List.mem_cons, List.not_mem_nil, or_false] at hc
    obtain rfl | rfl := hc
    · simp [boundLeaves] at hl
    · rwa [boundLeaves]
  | bare => simp [Node.children] at hc

/-- Every leaf that is seen past no lambda and no program is found by the check. -/
theorem mem_boundLeaves_of_sees {t m : Tree} (h : t.Sees Node.stopsCheck m)
    (ht : t.stopsCheck = false) {l : String × Value} (hm : m = .value l.1 l.2) :
    l ∈ boundLeaves t := by
  induction h with
  | refl n =>
    rw [hm, boundLeaves]
    exact List.mem_singleton.mpr rfl
  | child hc hstop _ ih => exact mem_boundLeaves_of_child ht hc (ih hstop hm)

/-- Right below a lambda stands the call that is its body. -/
theorem sees_body_of_sees_lambda {stop : Tree → Bool} {params : List String} {tool : String}
    {args : List Tree} {name : String} {literal : Value}
    (h : (Node.lambda params tool args).Sees stop (.value name literal)) :
    (Node.call tool args).Sees stop (.value name literal) := by
  obtain heq | ⟨c, hc, -, h⟩ := Node.sees_iff.mp h
  · cases heq
  · rw [Node.children, List.mem_singleton] at hc
    rwa [← hc]

/-! ## Other literals in the place of nulls -/

mutual

/-- A tree with another literal in the place of every null that is seen past no lambda and no
program. -/
def fillNulls (w : Value) : Tree → Tree
  | .value name literal => .value name (if literal.isNull then w else literal)
  | .call tool args => .call tool (fillNullsAll w args)
  | .program heading body => .program heading body
  | .cond test yes none => .cond (fillNulls w test) (fillNulls w yes) none
  | .cond test yes (some no) =>
    .cond (fillNulls w test) (fillNulls w yes) (some (fillNulls w no))
  | .lambda params tool args => .lambda params tool args
  | .over op params tool args items => .over op params tool args (fillNulls w items)
  | .bare => .bare

/-- The trees of a list with another literal in the place of nulls. -/
def fillNullsAll (w : Value) : List Tree → List Tree
  | [] => []
  | t :: ts => fillNulls w t :: fillNullsAll w ts

end

theorem fillNullsAll_eq_map (w : Value) (ts : List Tree) :
    fillNullsAll w ts = ts.map (fillNulls w) := by
  induction ts with
  | nil => rfl
  | cons t ts ih => rw [fillNullsAll, ih, List.map_cons]

theorem stopsCheck_fillNulls (w : Value) (t : Tree) :
    (fillNulls w t).stopsCheck = t.stopsCheck := by
  cases t with
  | cond test yes no => cases no <;> rfl
  | _ => rfl

/-- What is right below a tree that was filled was filled, unless one does not look past it. -/
theorem exists_child_of_fillNulls {w : Value} {t c : Tree} (ht : t.stopsCheck = false)
    (hc : c ∈ (fillNulls w t).children) (hstop : c.stopsCheck = false) :
    ∃ c' ∈ t.children, c = fillNulls w c' := by
  cases t with
  | value name literal => simp [fillNulls, Node.children] at hc
  | call tool args =>
    rw [fillNulls, Node.children, fillNullsAll_eq_map, List.mem_map] at hc
    obtain ⟨c', hc', rfl⟩ := hc
    exact ⟨c', hc', rfl⟩
  | program heading body => simp [Node.stopsCheck, Node.isProgram] at ht
  | cond test yes no =>
    cases no <;> simp only [fillNulls, Node.children, Option.toList, List.mem_cons,
      List.not_mem_nil, or_false] at hc
    · obtain rfl | rfl := hc
      · exact ⟨test, by simp [Node.children], rfl⟩
      · exact ⟨yes, by simp [Node.children], rfl⟩
    · next no =>
      obtain rfl | rfl | rfl := hc
      · exact ⟨test, by simp [Node.children], rfl⟩
      · exact ⟨yes, by simp [Node.children], rfl⟩
      · exact ⟨no, by simp [Node.children], rfl⟩
  | lambda params tool args => simp [Node.stopsCheck, Node.isLambda] at ht
  | «over» op params tool args items =>
    simp only [fillNulls, Node.children, List.mem_cons, List.not_mem_nil, or_false] at hc
    obtain rfl | rfl := hc
    · simp [Node.stopsCheck, Node.isLambda] at hstop
    · exact ⟨items, by simp [Node.children], rfl⟩
  | bare => simp [fillNulls, Node.children] at hc

theorem fillNulls_ne_null {w : Value} (hw : w.isNull = false) (t : Tree) (name : String) :
    fillNulls w t ≠ .value name .null := by
  intro h
  cases t with
  | value name' literal =>
    rw [fillNulls, Node.value.injEq] at h
    obtain ⟨-, h⟩ := h
    split at h
    · rw [h] at hw
      cases hw
    · next hnull => exact hnull (h ▸ rfl)
  | cond test yes no => cases no <;> cases h
  | _ => cases h

/-- No null is left to be seen. -/
theorem not_sees_null_fillNulls {w : Value} (hw : w.isNull = false) {t : Tree}
    (ht : t.stopsCheck = false) (name : String) :
    ¬ (fillNulls w t).Sees Node.stopsCheck (.value name .null) := by
  induction t using Node.induct_children with
  | h t ih =>
    intro h
    rw [Node.sees_iff] at h
    obtain heq | ⟨c, hc, hstop, h⟩ := h
    · exact fillNulls_ne_null hw t name heq
    · obtain ⟨c', hc', rfl⟩ := exists_child_of_fillNulls ht hc hstop
      rw [stopsCheck_fillNulls] at hstop
      exact ih c' hc' hstop h

/-- **A null whose name is bound is not read.** -/
theorem eval_fillNulls {σ : Type} (p : Provider σ) (w : Value) {names : Bindings} {t : Tree}
    (h : ∀ l ∈ boundLeaves t, l.2.isNull = true → (names.get? l.1).isSome) :
    eval p names (fillNulls w t) = eval p names t := by
  induction t using Node.induct with
  | value name literal =>
    rw [fillNulls, eval, eval]
    split
    · next hnull =>
      have hbound := h (name, literal) (by simp [boundLeaves]) hnull
      obtain ⟨v, hv⟩ := Option.isSome_iff_exists.mp hbound
      rw [leafValue, leafValue, hv, Option.getD_some, Option.getD_some]
    · rfl
  | call tool args ih =>
    rw [boundLeaves, boundLeavesAll_eq_flatMap] at h
    have hargs : evalAll p names args = evalAll p names (args.map (fillNulls w)) :=
      evalAll_map fun t ht ↦ (ih t ht fun l hl ↦ h l (List.mem_flatMap.mpr ⟨t, ht, hl⟩)).symm
    rw [fillNulls, fillNullsAll_eq_map, eval, eval, ← hargs, List.length_map]
  | program heading body ih => rfl
  | cond test yes iht ihy =>
    simp only [boundLeaves, List.mem_append] at h
    rw [fillNulls, eval, eval, iht fun l hl ↦ h l (Or.inl hl), ihy fun l hl ↦ h l (Or.inr hl)]
  | condElse test yes no iht ihy ihn =>
    simp only [boundLeaves, List.mem_append] at h
    rw [fillNulls, eval, eval, iht fun l hl ↦ h l (Or.inl (Or.inl hl)),
      ihy fun l hl ↦ h l (Or.inl (Or.inr hl)), ihn fun l hl ↦ h l (Or.inr hl)]
  | lambda params tool args ih => rfl
  | listOp op params tool args items ih ihi =>
    rw [boundLeaves] at h
    rw [fillNulls, eval, eval, ihi h]
  | bare => rfl

/-! ## Lambdas of accepted programs -/

/-- **Placeholders are bound.** In an accepted program, a null that is seen from a lambda past no
other lambda and no program is named by a parameter of the lambda. So the body does not come to
these nulls when the parameters are bound: its evaluation is the same, calls of tools included, with
any literal in the place of all of them. -/
theorem placeholders_bound {v : Value} {t : Tree} (h : parse v = .ok t) {params : List String}
    {tool : String} {args : List Tree} (hn : .lambda params tool args ∈ t.nodes) :
    (∀ name, (Node.lambda params tool args).Sees Node.stopsCheck (.value name .null) →
      name ∈ params) ∧
    ∀ w : Value, w.isNull = false →
      (∀ name, ¬ (Node.lambda params tool (fillNullsAll w args)).Sees Node.stopsCheck
        (.value name .null)) ∧
      ∀ {σ : Type} (p : Provider σ) (names : Bindings), (∀ a ∈ params, (names.get? a).isSome) →
        eval p names (.call tool (fillNullsAll w args)) = eval p names (.call tool args) := by
  obtain ⟨-, -, hcheck⟩ := parse_eq_ok_iff.mp h
  obtain ⟨-, -, hnulls⟩ := checkLambda_eq_ok_iff.mp (check_eq_ok_iff.mp hcheck _ hn)
  refine ⟨?_, fun w hw ↦ ⟨?_, ?_⟩⟩
  · intro name hsees
    have hbody := sees_body_of_sees_lambda hsees
    exact hnulls (name, .null) (mem_boundLeaves_of_sees hbody rfl rfl) rfl
  · intro name hsees
    exact not_sees_null_fillNulls (t := .call tool args) hw rfl name
      (sees_body_of_sees_lambda hsees)
  · intro σ p names hbound
    refine eval_fillNulls p w (t := .call tool args) fun l hl hnull ↦ ?_
    exact hbound l.1 (hnulls l hl hnull)

/-- The placeholders of the outer lambda stand in a condition and in the items of a nested map. -/
theorem placeholders_bound_sumOfHalves :
    parse sumOfHalves.toValue = .ok sumOfHalves ∧
    (∀ name, (Node.lambda ["acc", "row"] "add" [
        .over .map ["x"] "half" [.value "x" .null] (.value "row" .null),
        .cond (.value "acc" .null) (.value "acc" .null) none]).Sees Node.stopsCheck
      (.value name .null) → name ∈ ["acc", "row"]) ∧
    eval handingBack [("acc", .int 1), ("row", .list [.int 2])] (.call "add" [
        .over .map ["x"] "half" [.value "x" .null] (.value "row" (.int 0)),
        .cond (.value "acc" (.int 0)) (.value "acc" (.int 0)) none]) =
      eval handingBack [("acc", .int 1), ("row", .list [.int 2])] (.call "add" [
        .over .map ["x"] "half" [.value "x" .null] (.value "row" .null),
        .cond (.value "acc" .null) (.value "acc" .null) none]) := by
  have h : parse sumOfHalves.toValue = .ok sumOfHalves :=
    parse_toValue (by decide) (by decide) (by cbv)
  have hn : .lambda ["acc", "row"] "add" [
      .over .map ["x"] "half" [.value "x" .null] (.value "row" .null),
      .cond (.value "acc" .null) (.value "acc" .null) none] ∈ sumOfHalves.nodes := by
    simp [sumOfHalves, Node.nodes, Node.nodesAll]
  obtain ⟨hparams, hfill⟩ := placeholders_bound h hn
  exact ⟨h, hparams, (hfill (.int 0) rfl).2 handingBack _ (by decide)⟩

/-! ## Placeholders in programs -/

/-- A lambda with a program in its body, and in that program a placeholder that nothing binds. -/
def hiddenPlaceholder : Tree :=
  .program ⟨.single, none, none⟩ [
    .over .map ["x"] "add" [.value "x" .null,
      .program ⟨.single, none, none⟩ [.value "y" .null]] (.value "items" (.list [.int 1]))]

/-- No other lambda stands between the placeholder and the lambda, yet the program is accepted, and
the placeholder's null is handed to a tool. -/
theorem placeholder_in_program_unbound :
    parse hiddenPlaceholder.toValue = .ok hiddenPlaceholder ∧
    .lambda ["x"] "add" [.value "x" .null, .program ⟨.single, none, none⟩ [.value "y" .null]] ∈
      hiddenPlaceholder.nodes ∧
    (Node.lambda ["x"] "add" [.value "x" .null,
      .program ⟨.single, none, none⟩ [.value "y" .null]] : Tree).Sees Node.isLambda
        (.value "y" .null) ∧
    "y" ∉ ["x"] ∧
    (eval handingBack [] hiddenPlaceholder ()).trace =
      [⟨"add", [("a", .int 1), ("b", .null)]⟩] := by
  refine ⟨parse_toValue (by decide) (by decide) (by cbv),
    by simp [hiddenPlaceholder, Node.nodes, Node.nodesAll], ?_, by decide, by cbv⟩
  refine .child (List.mem_singleton.mpr rfl) rfl (.child (List.mem_cons_of_mem _
    (List.mem_singleton.mpr rfl)) rfl (.child (List.mem_singleton.mpr rfl) rfl (.refl _)))

end CallTree
