import CallTree.Proofs.Effects
import CallTree.Proofs.Nodes

/-!
# What the evaluation of a tree guarantees

Guarantees about evaluation are about values (what a program, a leaf or a tool may give), about
faults and about the tool calls that are made. All of them are proved by the same induction over the
tree, which is done once here: `eval_meets` turns what each node of a tree guarantees by itself
(`Node.Guarantees`) into a guarantee of every evaluation of the tree, in all bindings of values that
are allowed.

What a call can meet with is said by `LookupFault` and `Provider.Offers`: between them they are all
that looking up a tool can lead to.
-/

namespace CallTree

variable {σ : Type}

/-! ## Looking up and calling a tool -/

/-- The provider may describe the tool as one with these parameters. -/
def Provider.Offers (p : Provider σ) (tool : String) (params : List String) : Prop :=
  ∃ s raw d, (p.define tool s).1 = .ok raw ∧ raw.truthy = true ∧
    Definition.ofValue (some tool) raw = .ok d ∧ d.parameters = params

/-- The faults of looking up a tool that is to be called with `count` arguments. -/
inductive LookupFault (p : Provider σ) (tool : String) (count : Nat) : EvalFault → Prop where
  /-- The provider failed. -/
  | raised {s : σ} {f : Fault} (h : (p.define tool s).1 = .error f) :
      LookupFault p tool count (.raised f)
  /-- The provider answered with something that counts as nothing. -/
  | unavailable {s : σ} {raw : Value} (h : (p.define tool s).1 = .ok raw)
      (hraw : raw.truthy = false) : LookupFault p tool count (.unavailable tool)
  /-- The provider's answer cannot be normalised. -/
  | definition {s : σ} {raw : Value} {d : DefinitionFault} (h : (p.define tool s).1 = .ok raw)
      (hd : Definition.ofValue (some tool) raw = .error d) :
      LookupFault p tool count (.definition d)
  /-- The tool has another number of parameters. -/
  | arity {params : List String} (h : p.Offers tool params) (hlen : params.length ≠ count) :
      LookupFault p tool count (.arity tool params.length count)

theorem ask_run {α : Type} (x : Attempt σ Fault α) (s : σ) :
    Action.ask x s = ⟨(x s).1.mapError .raised, (x s).2, []⟩ := by
  rw [Action.ask]
  obtain ⟨r, s'⟩ := x s
  cases r <;> rfl

theorem invoke_run (p : Provider σ) (tool : String) (args : List (String × Value)) (s : σ) :
    Action.invoke p tool args s
      = ⟨(p.invoke tool args s).1.mapError .raised, (p.invoke tool args s).2,
        [⟨tool, args⟩]⟩ := by
  rw [Action.invoke]
  obtain ⟨r, s'⟩ := p.invoke tool args s
  cases r <;> rfl

theorem parametersFor_meets (p : Provider σ) (tool : String) (count : Nat) {C : Call → Prop} :
    (parametersFor p tool count).Meets
      (fun params ↦ p.Offers tool params ∧ params.length = count) (LookupFault p tool count) C := by
  have hask : (Action.ask (p.define tool)).Meets (fun raw ↦ ∃ s, (p.define tool s).1 = .ok raw)
      (LookupFault p tool count) C :=
    .of_attempt (ask_run _) (fun s _ h ↦ ⟨s, h⟩) (fun _ _ h ↦ .raised h)
      fun _ h ↦ absurd h List.not_mem_nil
  refine hask.bind fun raw hraw ↦ ?_
  obtain ⟨s, hs⟩ := hraw
  cases htruthy : raw.truthy with
  | false => exact Effect.Meets.fail (.unavailable hs htruthy)
  | true =>
    cases hd : Definition.ofValue (some tool) raw with
    | error d => exact Effect.Meets.fail (.definition hs hd)
    | ok d =>
      have hoffers : p.Offers tool d.parameters := ⟨s, raw, d, hs, htruthy, hd, rfl⟩
      by_cases hlen : d.parameters.length = count
      · simp only [Bool.not_true, Bool.false_eq_true, if_false, if_pos hlen]
        exact Effect.Meets.done ⟨hoffers, hlen⟩
      · simp only [Bool.not_true, Bool.false_eq_true, if_false, if_neg hlen]
        exact Effect.Meets.fail (.arity hoffers hlen)

/-- What a tool call guarantees is what the provider's operation does. -/
theorem invoke_meets {p : Provider σ} {tool : String} {args : List (String × Value)}
    {V : Value → Prop} {E : EvalFault → Prop} {C : Call → Prop}
    (hV : ∀ s v, (p.invoke tool args s).1 = .ok v → V v)
    (hE : ∀ s f, (p.invoke tool args s).1 = .error f → E (.raised f)) (hC : C ⟨tool, args⟩) :
    (Action.invoke p tool args).Meets V E C :=
  .of_attempt (invoke_run p tool args) hV hE fun _ h ↦ List.mem_singleton.mp h ▸ hC

/-! ## Steps of the evaluation

`V` is what holds of values, `E` of faults and `C` of tool calls. -/

/-- What is asked of the values that may occur: null is one of them, and a list is one exactly when
its members are. -/
structure ValuesClosed (V : Value → Prop) : Prop where
  null : V .null
  list : ∀ {xs}, V (.list xs) ↔ ∀ x ∈ xs, V x

/-- What a call of a tool guarantees by itself, on any arguments that are allowed. -/
structure CallGuarantees (p : Provider σ) (V : Value → Prop) (E : EvalFault → Prop)
    (C : Call → Prop) (tool : String) (count : Nat) : Prop where
  lookup : ∀ e, LookupFault p (toolName tool) count e → E e
  invoke : ∀ {params vs}, p.Offers (toolName tool) params → params.length = count →
    vs.length = count → (∀ v ∈ vs, V v) →
    (Action.invoke p (toolName tool) (params.zip vs)).Meets V E C

section

variable {p : Provider σ} {V : Value → Prop} {E : EvalFault → Prop} {C : Call → Prop}

theorem callTool_meets {tool : String} {count : Nat} {args : Action σ (List Value)}
    (h : CallGuarantees p V E C tool count)
    (hargs : args.Meets (fun vs ↦ vs.length = count ∧ ∀ v ∈ vs, V v) E C) :
    (callTool p tool count args).Meets V E C := by
  refine ((parametersFor_meets p _ count).mono (fun _ hp ↦ hp) h.lookup).bind fun params hp ↦ ?_
  refine hargs.bind fun vs hvs ↦ ?_
  exact h.invoke hp.1 hp.2 hvs.1 hvs.2

theorem itemsOf_meets (hV : ValuesClosed V) {op : ListOp} (hE : E (.notList op)) {v : Value}
    (hv : V v) : (itemsOf op v : Action σ (List Value)).Meets (fun xs ↦ ∀ x ∈ xs, V x) E C := by
  cases v with
  | list xs => exact Effect.Meets.done (hV.list.mp hv)
  | _ => exact Effect.Meets.fail hE

theorem keepItems_meets {f : Value → Action σ Value} {xs : List Value} (hxs : ∀ x ∈ xs, V x)
    (hf : ∀ x, V x → (f x).Meets V E C) :
    (keepItems f xs).Meets (fun ys ↦ ∀ y ∈ ys, V y) E C := by
  induction xs with
  | nil => exact Effect.Meets.done fun _ h ↦ absurd h List.not_mem_nil
  | cons x xs ih =>
    obtain ⟨hx, hxs⟩ := List.forall_mem_cons.mp hxs
    refine (hf x hx).bind fun y _ ↦ ?_
    refine (ih hxs).bind fun ys hys ↦ ?_
    refine Effect.Meets.pure ?_
    split
    · exact List.forall_mem_cons.mpr ⟨hx, hys⟩
    · exact hys

theorem foldItems_meets {f : Value → Value → Action σ Value} {acc : Value} {xs : List Value}
    (hacc : V acc) (hxs : ∀ x ∈ xs, V x) (hf : ∀ a x, V a → V x → (f a x).Meets V E C) :
    (foldItems f acc xs).Meets V E C := by
  induction xs generalizing acc with
  | nil => exact Effect.Meets.done hacc
  | cons x xs ih =>
    obtain ⟨hx, hxs⟩ := List.forall_mem_cons.mp hxs
    exact (hf acc x hacc hx).bind fun a ha ↦ ih ha hxs

/-! ### List operations -/

/-- The lambda of a list operation has the parameters that the operation binds, and the one of a
reduce has a leaf for its accumulator. -/
structure ListOp.Ready (op : ListOp) (params : List String) (leaves : List Tree) : Prop where
  count : params.length = op.arity
  placeholder : op = .reduce → ∀ a ∈ params.head?, (firstLeaf? a leaves).isSome

/-- The faults of a list operation whose lambda is not ready for it. -/
def EvalFault.IsUnready : EvalFault → Prop
  | .noParameter => True
  | .noPlaceholder => True
  | .parameterCount => True
  | _ => False

theorem extend_values {names : Bindings} {new : List (String × Value)}
    (hnames : ∀ b ∈ names, V b.2) (hnew : ∀ b ∈ new, V b.2) : ∀ b ∈ names.extend new, V b.2 := by
  rw [Bindings.extend]
  induction new generalizing names with
  | nil => exact hnames
  | cons c new ih =>
    obtain ⟨hc, hnew⟩ := List.forall_mem_cons.mp hnew
    exact ih (List.forall_mem_cons.mpr ⟨hc, hnames⟩) hnew

theorem leafValue_of_values {names : Bindings} {name : String} {literal : Value}
    (hnames : ∀ b ∈ names, V b.2) (hl : V literal) : V (leafValue names name literal) := by
  rw [leafValue, Bindings.get?]
  cases h : names.lookup name with
  | none => exact hl
  | some v =>
    obtain ⟨before, after, rfl, -⟩ := List.lookup_eq_some_iff.mp h
    exact hnames (name, v) (by simp)

/-- What is asked of a lambda that is run in bindings of allowed values. -/
def BodyMeets (V : Value → Prop) (E : EvalFault → Prop) (C : Call → Prop)
    (body : Bindings → Action σ Value) : Prop :=
  ∀ names, (∀ b ∈ names, V b.2) → (body names).Meets V E C

theorem reduceStep_meets {names : Bindings} {params : List String} {leaves : List Tree}
    {body : Bindings → Action σ Value} {acc x : Value}
    (hready : ListOp.Ready .reduce params leaves ∨ ∀ e : EvalFault, e.IsUnready → E e)
    (hnames : ∀ b ∈ names, V b.2) (hacc : V acc) (hx : V x) (hbody : BodyMeets V E C body) :
    (reduceStep names params body acc x).Meets V E C := by
  rw [reduceStep.eq_def]
  split
  · refine hbody _ (extend_values hnames ?_)
    exact List.forall_mem_cons.mpr ⟨hacc, List.forall_mem_singleton.mpr hx⟩
  · next hparams =>
    refine Effect.Meets.fail (hready.elim (fun h ↦ ?_) fun h ↦ h _ trivial)
    match params, h.count with
    | [p, q], _ => exact absurd rfl (hparams p q)

theorem reduceItems_meets (hV : ValuesClosed V) {names : Bindings} {params : List String}
    {leaves : List Tree} {body : Bindings → Action σ Value} {items : List Value}
    (hready : ListOp.Ready .reduce params leaves ∨ ∀ e : EvalFault, e.IsUnready → E e)
    (hleaf : ∀ name literal, firstLeaf? name leaves = some literal → V literal)
    (hnames : ∀ b ∈ names, V b.2) (hitems : ∀ x ∈ items, V x) (hbody : BodyMeets V E C body) :
    (reduceItems (placeholder? names leaves) names params body items).Meets V E C := by
  cases items with
  | nil => exact Effect.Meets.done hV.null
  | cons first rest =>
    -- what the reduce does without looking is covered by its readiness, or by `E`
    obtain ⟨hfirst, hrest⟩ := List.forall_mem_cons.mp hitems
    have hstep : ∀ acc x, V acc → V x → (reduceStep names params body acc x).Meets V E C :=
      fun acc x hacc hx ↦ reduceStep_meets hready hnames hacc hx hbody
    cases params with
    | nil =>
      refine Effect.Meets.fail (hready.elim (fun h ↦ ?_) fun h ↦ h _ trivial)
      exact absurd h.count (by decide)
    | cons a others =>
      cases hl : firstLeaf? a leaves with
      | none =>
        simp only [reduceItems, placeholder?, hl, Option.map_none]
        refine Effect.Meets.fail (hready.elim (fun h ↦ ?_) fun h ↦ h _ trivial)
        have hsome := h.placeholder rfl a rfl
        rw [hl] at hsome
        exact absurd hsome (by decide)
      | some literal =>
        simp only [reduceItems, placeholder?, hl, Option.map_some]
        split
        · exact foldItems_meets hfirst hrest hstep
        · exact foldItems_meets (leafValue_of_values hnames (hleaf a literal hl)) hitems hstep

theorem runListOp_meets (hV : ValuesClosed V) {op : ListOp} {names : Bindings}
    {params : List String} {leaves : List Tree} {body : Bindings → Action σ Value}
    {items : List Value}
    (hready : op.Ready params leaves ∨ ∀ e : EvalFault, e.IsUnready → E e)
    (hleaf : ∀ name literal, firstLeaf? name leaves = some literal → V literal)
    (hnames : ∀ b ∈ names, V b.2) (hitems : ∀ x ∈ items, V x) (hbody : BodyMeets V E C body) :
    (runListOp op (placeholder? names leaves) names params body items).Meets V E C := by
  have hone : ∀ a x, V x → (body (names.extend [(a, x)])).Meets V E C := fun a x hx ↦
    hbody _ (extend_values hnames (List.forall_mem_singleton.mpr hx))
  have hempty : op.arity ≠ 0 → params = [] → E .noParameter := by
    rintro harity rfl
    exact hready.elim (fun h ↦ absurd h.count.symm harity) fun h ↦ h _ trivial
  cases op with
  | reduce => exact reduceItems_meets hV hready hleaf hnames hitems hbody
  | map =>
    cases params with
    | nil => exact Effect.Meets.fail (hempty (by decide) rfl)
    | cons a others =>
      refine (Effect.Meets.each fun x hx ↦ hone a x (hitems x hx)).bind fun ys hys ↦ ?_
      exact Effect.Meets.pure (hV.list.mpr hys.2)
  | filter =>
    cases params with
    | nil => exact Effect.Meets.fail (hempty (by decide) rfl)
    | cons a others =>
      refine (keepItems_meets hitems fun x hx ↦ hone a x hx).bind fun ys hys ↦ ?_
      exact Effect.Meets.pure (hV.list.mpr hys)

/-! ## Whole trees -/

/-- What a node guarantees by itself. Programs and choices add nothing to what is below them. -/
def Node.Guarantees (p : Provider σ) (V : Value → Prop) (E : EvalFault → Prop)
    (C : Call → Prop) : Tree → Prop
  | .value _ literal => V literal
  | .call tool args => CallGuarantees p V E C tool args.length
  | .lambda params tool args =>
    ∀ names : Bindings, (∀ b ∈ names, V b.2) → V (.closure params tool args names)
  | .over op params _ args _ => E (.notList op) ∧
      (op.Ready params (Node.nodesAll args) ∨ ∀ e : EvalFault, e.IsUnready → E e)
  | .bare => E .unsupported
  | .program _ _ => True
  | .cond _ _ _ => True

theorem evalAll_eq_each (p : Provider σ) (names : Bindings) (ts : List Tree) :
    evalAll p names ts = Effect.each (eval p names) ts := by
  induction ts with
  | nil => rfl
  | cons t ts ih =>
    rw [evalAll, ih]
    rfl

theorem programResult_values (hV : ValuesClosed V) {vs : List Value} (h : ∀ v ∈ vs, V v) :
    V (programResult vs) := by
  rw [programResult.eq_def]
  split
  · exact h _ List.mem_cons_self
  · exact hV.list.mpr h

/-- The literal of a first leaf is that of a leaf. -/
theorem value_mem_of_firstLeaf? {name : String} {literal : Value} {ns : List Tree}
    (h : firstLeaf? name ns = some literal) : .value name literal ∈ ns := by
  rw [firstLeaf?] at h
  obtain ⟨n, hn, hl⟩ := List.exists_of_findSome?_eq_some h
  cases n with
  | value other l =>
    simp only [Option.ite_none_right_eq_some, Option.some.injEq] at hl
    obtain ⟨rfl, rfl⟩ := hl
    exact hn
  | _ => cases hl

/-- **Guarantees of evaluation.** What every node of a tree guarantees by itself, every evaluation
of the tree guarantees, in all bindings of allowed values. -/
theorem eval_meets (hV : ValuesClosed V) {t : Tree}
    (ht : ∀ n ∈ t.nodes, n.Guarantees p V E C) {names : Bindings} (hnames : ∀ b ∈ names, V b.2) :
    (eval p names t).Meets V E C := by
  induction t using Node.induct generalizing names with
  | value name literal =>
    have hl : V literal := ht _ List.mem_cons_self
    rw [eval]
    exact Effect.Meets.done (leafValue_of_values hnames hl)
  | call tool args ih =>
    rw [eval, evalAll_eq_each]
    refine callTool_meets (ht _ List.mem_cons_self) (Effect.Meets.each fun t hmem ↦ ?_)
    exact ih t hmem (fun n hn ↦ ht n (List.mem_cons_of_mem _ (Node.mem_nodesAll_of_mem hmem hn)))
      hnames
  | program heading body ih =>
    rw [eval, evalAll_eq_each]
    refine (Effect.Meets.each fun t hmem ↦ ?_).bind fun vs hvs ↦
      Effect.Meets.pure (programResult_values hV hvs.2)
    exact ih t hmem (fun n hn ↦ ht n (List.mem_cons_of_mem _ (Node.mem_nodesAll_of_mem hmem hn)))
      hnames
  | cond test yes iht ihy =>
    simp only [Node.nodes, List.forall_mem_cons, List.forall_mem_append] at ht
    obtain ⟨-, htest, hyes⟩ := ht
    rw [eval]
    refine (iht htest hnames).bind fun v _ ↦ ?_
    split
    · exact ihy hyes hnames
    · exact Effect.Meets.pure hV.null
  | condElse test yes no iht ihy ihn =>
    simp only [Node.nodes, List.forall_mem_cons, List.forall_mem_append] at ht
    obtain ⟨-, ⟨htest, hyes⟩, hno⟩ := ht
    rw [eval]
    refine (iht htest hnames).bind fun v _ ↦ ?_
    split
    · exact ihy hyes hnames
    · exact ihn hno hnames
  | lambda params tool args ih =>
    have hclosure := ht _ List.mem_cons_self
    rw [eval]
    exact Effect.Meets.done (hclosure names hnames)
  | listOp op params tool args items ih ihi =>
    simp only [Node.nodes, List.forall_mem_cons, List.forall_mem_append] at ht
    obtain ⟨hover, -, hcall, hargs, hitems⟩ := ht
    rw [eval]
    refine (ihi hitems hnames).bind fun v hv ↦ ?_
    refine (itemsOf_meets hV hover.1 hv).bind fun xs hxs ↦ ?_
    -- the body is run in other bindings, which is why the induction is over all of them
    refine runListOp_meets hV hover.2 ?_ hnames hxs fun names' hnames' ↦ ?_
    · intro name literal hl
      exact hargs _ (value_mem_of_firstLeaf? hl)
    · rw [evalAll_eq_each]
      refine callTool_meets hcall (Effect.Meets.each fun t hmem ↦ ?_)
      exact ih t hmem (fun n hn ↦ hargs n (Node.mem_nodesAll_of_mem hmem hn)) hnames'
  | bare =>
    rw [eval]
    exact Effect.Meets.fail (ht _ List.mem_cons_self)

end

end CallTree
