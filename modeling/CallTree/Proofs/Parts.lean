import CallTree.Proofs.Definitions
import CallTree.Proofs.Names

/-!
# The parts of an evaluation

An `Evaluation` is a tree, the bindings it is evaluated in and the state of the provider it starts
from. Evaluating a tree is done by evaluating other trees on the way: arguments, branches, and the
body of a lambda once for each invocation, each in bindings and from a state of its own.
`Evaluation.Part` says which they are. What was not come to, because something before it failed or
because the other branch was taken, is no part.

The guarantees of `Effect.Meets` hold in every state and forget the bindings. Here a single run is
followed: what each part does by itself (`Evaluation.Fulfils`) is put together to what can be said
of the outcome (`Evaluation.satisfies_of_parts`), where every part is known to start where the parts
before it have ended.
-/

namespace CallTree

variable {σ ε τ α β ι : Type}

/-! ## What can be said of a single run -/

/-- Something that holds of the state a run ends in, of its failure and of all that is in its
trace. -/
structure Outcome.Satisfies (o : Outcome σ ε τ α) (I : σ → Prop) (E : ε → Prop)
    (T : τ → Prop) : Prop where
  state : I o.state
  fault : ∀ {e}, o.result = .error e → E e
  trace : ∀ {t}, t ∈ o.trace → T t

namespace Effect

variable {I : σ → Prop} {E : ε → Prop} {T : τ → Prop}

theorem satisfies_done {s : σ} (hs : I s) (a : α) :
    ((done a : Effect σ ε τ α) s).Satisfies I E T where
  state := hs
  fault h := by cases h
  trace h := absurd h List.not_mem_nil

theorem satisfies_fail {s : σ} (hs : I s) {e : ε} (he : E e) :
    ((fail e : Effect σ ε τ α) s).Satisfies I E T where
  state := hs
  fault h := Except.error.inj h ▸ he
  trace h := absurd h List.not_mem_nil

theorem bind_eq_of_ok {x : Effect σ ε τ α} {f : α → Effect σ ε τ β} {s s₁ : σ} {a : α}
    {tr : List τ} (h : x s = ⟨.ok a, s₁, tr⟩) :
    (x >>= f) s = ⟨(f a s₁).result, (f a s₁).state, tr ++ (f a s₁).trace⟩ := by
  rw [bind_of_ok (a := a) (by rw [h]), h]

/-- If two steps give a value, so does each of them. -/
theorem ok_of_bind_eq_ok {x : Effect σ ε τ α} {f : α → Effect σ ε τ β} {s s₂ : σ} {b : β}
    {tr : List τ} (h : (x >>= f) s = ⟨.ok b, s₂, tr⟩) :
    ∃ a s₁ tr₁ tr₂, x s = ⟨.ok a, s₁, tr₁⟩ ∧ f a s₁ = ⟨.ok b, s₂, tr₂⟩ := by
  rcases hrun : x s with ⟨r, s₁, tr₁⟩
  cases r with
  | error e =>
    rw [bind_of_error (e := e) (by rw [hrun])] at h
    cases h
  | ok a =>
    rw [bind_eq_of_ok hrun] at h
    rcases hf : f a s₁ with ⟨r, s₃, tr₂⟩
    rw [hf] at h
    cases h
    exact ⟨a, s₁, tr₁, tr₂, rfl, hf⟩

/-- A run of two steps, where the second is known to start where the first has ended. -/
theorem satisfies_bind {x : Effect σ ε τ α} {f : α → Effect σ ε τ β} {s : σ}
    (hx : (x s).Satisfies I E T)
    (hf : ∀ {a s₁ tr}, x s = ⟨.ok a, s₁, tr⟩ → I s₁ → (f a s₁).Satisfies I E T) :
    ((x >>= f) s).Satisfies I E T := by
  rcases hrun : x s with ⟨r, s₁, tr⟩
  rw [hrun] at hx
  cases r with
  | error e =>
    rw [bind_of_error (e := e) (by rw [hrun]), hrun]
    exact ⟨hx.state, fun h ↦ Except.error.inj h ▸ hx.fault rfl, hx.trace⟩
  | ok a =>
    have h := hf hrun hx.state
    rw [bind_eq_of_ok hrun]
    exact ⟨h.state, h.fault, fun ht ↦ (List.mem_append.mp ht).elim hx.trace h.trace⟩

theorem satisfies_bind_pure {x : Effect σ ε τ α} {f : α → β} {s : σ}
    (hx : (x s).Satisfies I E T) : ((x >>= fun a ↦ pure (f a)) s).Satisfies I E T :=
  satisfies_bind hx fun _ hI ↦ satisfies_done hI _

/-- Working through a list: each item starts where those before it have ended. -/
theorem satisfies_each {f : ι → Effect σ ε τ α} {xs : List ι} {s : σ} (hs : I s)
    (h : ∀ {before x after ys s₁ tr}, xs = before ++ x :: after →
      each f before s = ⟨.ok ys, s₁, tr⟩ → I s₁ → (f x s₁).Satisfies I E T) :
    (each f xs s).Satisfies I E T := by
  induction xs generalizing s with
  | nil => exact satisfies_done hs []
  | cons x xs ih =>
    refine satisfies_bind (@h [] x xs [] s [] rfl rfl hs) fun {y s₁ tr} hx hs₁ ↦ ?_
    refine satisfies_bind_pure (ih hs₁ fun {before z after ys s₂ tr₂} hxs hbefore ↦ ?_)
    have hrun : each f (x :: before) s = ⟨.ok (y :: ys), s₂, tr ++ (tr₂ ++ [])⟩ := by
      rw [each, bind_eq_of_ok hx, bind_eq_of_ok hbefore]
      rfl
    exact h (by rw [hxs, List.cons_append]) hrun

end Effect

/-! ## List operations -/

section

variable {I : σ → Prop} {E : EvalFault → Prop} {T : Call → Prop}

theorem satisfies_keepItems {f : Value → Action σ Value} {xs : List Value} {s : σ} (hs : I s)
    (h : ∀ {before x after ys s₁ tr}, xs = before ++ x :: after →
      keepItems f before s = ⟨.ok ys, s₁, tr⟩ → I s₁ → (f x s₁).Satisfies I E T) :
    (keepItems f xs s).Satisfies I E T := by
  induction xs generalizing s with
  | nil => exact Effect.satisfies_done hs []
  | cons x xs ih =>
    refine Effect.satisfies_bind (@h [] x xs [] s [] rfl rfl hs) fun {y s₁ tr} hx hs₁ ↦ ?_
    refine Effect.satisfies_bind_pure (ih hs₁ fun {before z after ys s₂ tr₂} hxs hbefore ↦ ?_)
    have hrun : keepItems f (x :: before) s =
        ⟨.ok (if y.truthy then x :: ys else ys), s₂, tr ++ (tr₂ ++ [])⟩ := by
      rw [keepItems, Effect.bind_eq_of_ok hx, Effect.bind_eq_of_ok hbefore]
      rfl
    exact h (by rw [hxs, List.cons_append]) hrun

theorem satisfies_foldItems {f : Value → Value → Action σ Value} {acc : Value} {xs : List Value}
    {s : σ} (hs : I s)
    (h : ∀ {before x after a s₁ tr}, xs = before ++ x :: after →
      foldItems f acc before s = ⟨.ok a, s₁, tr⟩ → I s₁ → (f a x s₁).Satisfies I E T) :
    (foldItems f acc xs s).Satisfies I E T := by
  induction xs generalizing acc s with
  | nil => exact Effect.satisfies_done hs acc
  | cons x xs ih =>
    refine Effect.satisfies_bind (@h [] x xs acc s [] rfl rfl hs) fun {a s₁ tr} hx hs₁ ↦ ?_
    refine ih hs₁ fun {before z after b s₂ tr₂} hxs hbefore ↦ ?_
    have hrun : foldItems f acc (x :: before) s = ⟨.ok b, s₂, tr ++ tr₂⟩ := by
      rw [foldItems, Effect.bind_eq_of_ok hx, hbefore]
    exact h (by rw [hxs, List.cons_append]) hrun

/-- The invocations of a list operation on some items from a state: the bindings that the lambda is
run in, and the state it is run from. The items before have been worked through, and for a reduce
they have led to the value that is bound to the accumulator. -/
inductive ListOp.Invokes (names : Bindings) (params : List String) (leaves : List Tree)
    (body : Bindings → Action σ Value) (s : σ) : ListOp → List Value → Bindings → σ → Prop where
  | map {a : String} {others : List String} {before after ys : List Value} {x : Value} {s₁ : σ}
      {tr : List Call} (hparams : params = a :: others)
      (hbefore : Effect.each (fun x ↦ body (names.extend [(a, x)])) before s = ⟨.ok ys, s₁, tr⟩) :
      Invokes names params leaves body s .map (before ++ x :: after) (names.extend [(a, x)]) s₁
  | filter {a : String} {others : List String} {before after ys : List Value} {x : Value} {s₁ : σ}
      {tr : List Call} (hparams : params = a :: others)
      (hbefore : keepItems (fun x ↦ body (names.extend [(a, x)])) before s = ⟨.ok ys, s₁, tr⟩) :
      Invokes names params leaves body s .filter (before ++ x :: after) (names.extend [(a, x)]) s₁
  /-- The placeholder is null, so the first item is the first accumulator. -/
  | reduceFirst {a b : String} {before after : List Value} {start first acc x : Value} {s₁ : σ}
      {tr : List Call} (hparams : params = [a, b])
      (hstart : reduceStart? names params leaves = some start) (hnull : start.isNull = true)
      (hbefore : foldItems (reduceStep names params body) first before s = ⟨.ok acc, s₁, tr⟩) :
      Invokes names params leaves body s .reduce (first :: (before ++ x :: after))
        (names.extend [(a, acc), (b, x)]) s₁
  /-- The reduce starts from the value of its placeholder. -/
  | reduceStart {a b : String} {before after : List Value} {start acc x : Value} {s₁ : σ}
      {tr : List Call} (hparams : params = [a, b])
      (hstart : reduceStart? names params leaves = some start) (hvalue : start.isNull = false)
      (hbefore : foldItems (reduceStep names params body) start before s = ⟨.ok acc, s₁, tr⟩) :
      Invokes names params leaves body s .reduce (before ++ x :: after)
        (names.extend [(a, acc), (b, x)]) s₁

theorem satisfies_reduceStep {names : Bindings} {params : List String}
    {body : Bindings → Action σ Value} {acc x : Value} {s : σ} (hs : I s)
    (hE : ∀ e : EvalFault, e.IsUnready → E e)
    (h : ∀ {a b}, params = [a, b] →
      (body (names.extend [(a, acc), (b, x)]) s).Satisfies I E T) :
    (reduceStep names params body acc x s).Satisfies I E T := by
  rw [reduceStep.eq_def]
  split
  · exact h rfl
  · exact Effect.satisfies_fail hs (hE _ trivial)

/-- A list operation does nothing but invoke its lambda, or it is not ready to. -/
theorem satisfies_runListOp {op : ListOp} {names : Bindings} {params : List String}
    {leaves : List Tree} {body : Bindings → Action σ Value} {items : List Value} {s : σ}
    (hs : I s) (hE : ∀ e : EvalFault, e.IsUnready → E e)
    (h : ∀ {names' s₁}, ListOp.Invokes names params leaves body s op items names' s₁ → I s₁ →
      (body names' s₁).Satisfies I E T) :
    (runListOp op (placeholder? names leaves) names params body items s).Satisfies I E T := by
  cases op with
  | map =>
    cases params with
    | nil => exact Effect.satisfies_fail hs (hE _ trivial)
    | cons a others =>
      refine Effect.satisfies_bind_pure (Effect.satisfies_each hs ?_)
      rintro before x after ys s₁ tr rfl hbefore hs₁
      exact h (.map rfl hbefore) hs₁
  | filter =>
    cases params with
    | nil => exact Effect.satisfies_fail hs (hE _ trivial)
    | cons a others =>
      refine Effect.satisfies_bind_pure (satisfies_keepItems hs ?_)
      rintro before x after ys s₁ tr rfl hbefore hs₁
      exact h (.filter rfl hbefore) hs₁
  | reduce =>
    rw [runListOp]
    cases items with
    | nil => exact Effect.satisfies_done hs _
    | cons first rest =>
      cases params with
      | nil => exact Effect.satisfies_fail hs (hE _ trivial)
      | cons accumulator others =>
        cases hl : firstLeaf? accumulator leaves with
        | none =>
          simp only [reduceItems, placeholder?, hl, Option.map_none]
          exact Effect.satisfies_fail hs (hE _ trivial)
        | some literal =>
          have hstart : reduceStart? names (accumulator :: others) leaves =
              some (leafValue names accumulator literal) := by
            rw [reduceStart?, List.head?_cons, Option.bind_some, hl, Option.map_some]
          simp only [reduceItems, placeholder?, hl, Option.map_some]
          split
          · next hnull =>
            refine satisfies_foldItems hs ?_
            rintro before x after acc s₁ tr rfl hbefore hs₁
            refine satisfies_reduceStep hs₁ hE fun hparams ↦ ?_
            exact h (.reduceFirst hparams hstart hnull hbefore) hs₁
          · next hvalue =>
            refine satisfies_foldItems hs ?_
            rintro before x after acc s₁ tr hitems hbefore hs₁
            refine satisfies_reduceStep hs₁ hE fun hparams ↦ ?_
            rw [hitems] at h
            exact h (.reduceStart hparams hstart (Bool.eq_false_iff.mpr hvalue) hbefore) hs₁

end

/-! ## Looking up the parameters of a call -/

/-- What a call gets for its number of arguments from the definition of its tool. -/
def Definition.parametersOrArity (d : Definition) (count : Nat) :
    Except EvalFault (List String) :=
  if d.parameters.length = count then .ok d.parameters
  else .error (.arity d.name d.parameters.length count)

theorem Definition.truthy_of_ofValue {expected : Option String} {raw : Value} {d : Definition}
    (h : ofValue expected raw = .ok d) : raw.truthy = true := by
  obtain ⟨entries, rfl, -, -, hprops, -⟩ := ofValue_eq_ok_iff.mp h
  cases entries with
  | nil => cases hprops
  | cons e entries => rfl

/-- Where the provider's answer can be normalised, the number of arguments decides. -/
theorem parametersFor_of_definition {p : Provider σ} {tool : String} {s s₁ : σ} {raw : Value}
    {d : Definition} (h : p.define tool s = (.ok raw, s₁))
    (hd : Definition.ofValue (some tool) raw = .ok d) (count : Nat) :
    parametersFor p tool count s = ⟨d.parametersOrArity count, s₁, []⟩ := by
  have hask : Action.ask (p.define tool) s = ⟨.ok raw, s₁, []⟩ := by rw [ask_run, h]; rfl
  rw [parametersFor, Effect.bind_eq_of_ok hask, Definition.parametersOrArity]
  simp only [Definition.truthy_of_ofValue hd, hd, Definition.name_of_ofValue hd, Bool.not_true,
    Bool.false_eq_true, if_false, List.nil_append]
  split <;> rfl

/-- All that looking up a tool can lead to: its definition is there, or the lookup fails for another
reason than the number of arguments. No tool is called. -/
theorem parametersFor_cases (p : Provider σ) (tool : String) (count : Nat) (s : σ) :
    (∃ raw s₁ d, p.define tool s = (.ok raw, s₁) ∧
      Definition.ofValue (some tool) raw = .ok d ∧
      parametersFor p tool count s = ⟨d.parametersOrArity count, s₁, []⟩) ∨
    ∃ e, (∀ name expected got, e ≠ .arity name expected got) ∧
      parametersFor p tool count s = ⟨.error e, (p.define tool s).2, []⟩ := by
  rcases hdefine : p.define tool s with ⟨r, s₁⟩
  cases r with
  | error f =>
    have hask : Action.ask (p.define tool) s = ⟨.error (.raised f), s₁, []⟩ := by
      rw [ask_run, hdefine]; rfl
    refine Or.inr ⟨.raised f, by rintro _ _ _ ⟨⟩, ?_⟩
    rw [parametersFor, Effect.bind_of_error (e := .raised f) (by rw [hask]), hask]
  | ok raw =>
    have hask : Action.ask (p.define tool) s = ⟨.ok raw, s₁, []⟩ := by rw [ask_run, hdefine]; rfl
    cases hd : Definition.ofValue (some tool) raw with
    | ok d => exact Or.inl ⟨raw, s₁, d, rfl, hd, parametersFor_of_definition hdefine hd count⟩
    | error fault =>
      rw [parametersFor, Effect.bind_eq_of_ok hask, hd]
      cases raw.truthy with
      | false => exact Or.inr ⟨.unavailable tool, by rintro _ _ _ ⟨⟩, rfl⟩
      | true => exact Or.inr ⟨.definition fault, by rintro _ _ _ ⟨⟩, rfl⟩

theorem parametersFor_state (p : Provider σ) (tool : String) (count : Nat) (s : σ) :
    (parametersFor p tool count s).state = (p.define tool s).2 := by
  obtain ⟨raw, s₁, d, hdefine, -, hrun⟩ | ⟨e, -, hrun⟩ := parametersFor_cases p tool count s
  · rw [hrun, hdefine]
  · rw [hrun]

/-! ## Evaluations and their parts -/

/-- The evaluation of a tree in bindings, from a state of the provider. -/
structure Evaluation (σ : Type) where
  names : Bindings
  tree : Tree
  state : σ

namespace Evaluation

/-- What comes of an evaluation. -/
def outcome (p : Provider σ) (a : Evaluation σ) : Outcome σ EvalFault Call Value :=
  eval p a.names a.tree a.state

/-- One evaluation is done right on the way of another one: it was come to, and it starts where what
is before it has ended. -/
inductive Part (p : Provider σ) : Evaluation σ → Evaluation σ → Prop where
  /-- An argument, once the parameters of the tool are known to be as many as the arguments. -/
  | arg {names : Bindings} {tool : String} {before after : List Tree} {t : Tree} {s s₁ s₂ : σ}
      {params : List String} {vs : List Value} {tr₁ tr₂ : List Call}
      (hparams : parametersFor p (toolName tool) (before ++ t :: after).length s =
        ⟨.ok params, s₁, tr₁⟩)
      (hbefore : evalAll p names before s₁ = ⟨.ok vs, s₂, tr₂⟩) :
      Part p ⟨names, .call tool (before ++ t :: after), s⟩ ⟨names, t, s₂⟩
  | member {names : Bindings} {heading : Heading} {before after : List Tree} {t : Tree}
      {s s₁ : σ} {vs : List Value} {tr : List Call}
      (hbefore : evalAll p names before s = ⟨.ok vs, s₁, tr⟩) :
      Part p ⟨names, .program heading (before ++ t :: after), s⟩ ⟨names, t, s₁⟩
  | test {names : Bindings} {test yes : Tree} {no : Option Tree} {s : σ} :
      Part p ⟨names, .cond test yes no, s⟩ ⟨names, test, s⟩
  | yes {names : Bindings} {test yes : Tree} {no : Option Tree} {s s₁ : σ} {v : Value}
      {tr : List Call} (htest : eval p names test s = ⟨.ok v, s₁, tr⟩) (hv : v.truthy = true) :
      Part p ⟨names, .cond test yes no, s⟩ ⟨names, yes, s₁⟩
  | no {names : Bindings} {test yes no : Tree} {s s₁ : σ} {v : Value}
      {tr : List Call} (htest : eval p names test s = ⟨.ok v, s₁, tr⟩) (hv : v.truthy = false) :
      Part p ⟨names, .cond test yes (some no), s⟩ ⟨names, no, s₁⟩
  | items {names : Bindings} {op : ListOp} {params : List String} {tool : String}
      {args : List Tree} {items : Tree} {s : σ} :
      Part p ⟨names, .over op params tool args items, s⟩ ⟨names, items, s⟩
  /-- The body of the lambda, in the bindings of one invocation. -/
  | body {names names' : Bindings} {op : ListOp} {params : List String} {tool : String}
      {args : List Tree} {items : Tree} {xs : List Value} {s s₁ s₂ : σ} {tr : List Call}
      (hitems : eval p names items s = ⟨.ok (.list xs), s₁, tr⟩)
      (hinvoke : ListOp.Invokes names params (Node.nodesAll args)
        (fun names ↦ eval p names (.call tool args)) s₁ op xs names' s₂) :
      Part p ⟨names, .over op params tool args items, s⟩ ⟨names', .call tool args, s₂⟩

/-- One evaluation is done in the course of another one, at any depth. -/
def Within (p : Provider σ) (b a : Evaluation σ) : Prop := Relation.ReflTransGen (Part p) a b

theorem Within.refl {p : Provider σ} (a : Evaluation σ) : a.Within p a :=
  Relation.ReflTransGen.refl

theorem Within.of_part {p : Provider σ} {a b c : Evaluation σ} (h : Part p a b)
    (hc : c.Within p b) : c.Within p a := Relation.ReflTransGen.head h hc

theorem Part.mem_nodes {p : Provider σ} {a b : Evaluation σ} (h : Part p a b) :
    b.tree ∈ a.tree.nodes := by
  rw [Node.nodes_eq_cons]
  refine List.mem_cons_of_mem _ ?_
  cases h with
  | body => exact Node.mem_nodesAll_of_mem List.mem_cons_self (by simp [Node.nodes])
  | _ => exact Node.mem_nodesAll_of_mem (by simp [Node.children]) (Node.self_mem_nodes _)

/-- What is evaluated in the course of an evaluation is a node of its tree. -/
theorem Within.mem_nodes {p : Provider σ} {a b : Evaluation σ} (h : b.Within p a) :
    b.tree ∈ a.tree.nodes := by
  induction h with
  | refl => exact Node.self_mem_nodes _
  | tail _ hpart ih => exact Node.nodes_trans ih hpart.mem_nodes

/-! ## What the parts do makes the outcome -/

section

variable {p : Provider σ} {I : σ → Prop} {E : EvalFault → Prop} {T : Call → Prop}

/-- What an evaluation of a call does by itself: it looks up its tool and, once its arguments have
their values, calls it. -/
structure CallFulfils (p : Provider σ) (I : σ → Prop) (E : EvalFault → Prop) (T : Call → Prop)
    (names : Bindings) (tool : String) (args : List Tree) (s : σ) : Prop where
  lookup : (parametersFor p (toolName tool) args.length s).Satisfies I E T
  invoke : ∀ {params vs s₁ s₂ tr₁ tr₂},
    parametersFor p (toolName tool) args.length s = ⟨.ok params, s₁, tr₁⟩ →
    evalAll p names args s₁ = ⟨.ok vs, s₂, tr₂⟩ → I s₂ →
    (Action.invoke p (toolName tool) (params.zip vs) s₂).Satisfies I E T

/-- What an evaluation does by itself, apart from its parts. -/
def Fulfils (p : Provider σ) (I : σ → Prop) (E : EvalFault → Prop) (T : Call → Prop) :
    Evaluation σ → Prop
  | ⟨names, .call tool args, s⟩ => CallFulfils p I E T names tool args s
  | ⟨_, .over op _ _ _ _, _⟩ => E (.notList op) ∧ ∀ e : EvalFault, e.IsUnready → E e
  | ⟨_, .bare, _⟩ => E .unsupported
  | _ => True

/-- All evaluations in the course of one fulfil what is asked of them. -/
def AllFulfil (p : Provider σ) (I : σ → Prop) (E : EvalFault → Prop) (T : Call → Prop)
    (a : Evaluation σ) : Prop :=
  ∀ b : Evaluation σ, b.Within p a → I b.state → b.Fulfils p I E T

theorem AllFulfil.self {a : Evaluation σ} (h : a.AllFulfil p I E T) (hI : I a.state) :
    a.Fulfils p I E T := h a (.refl a) hI

theorem AllFulfil.part {a b : Evaluation σ} (h : a.AllFulfil p I E T) (hb : Part p a b) :
    b.AllFulfil p I E T := fun c hc hI ↦ h c (.of_part hb hc) hI

/-- A list operation evaluates the body of its lambda, which is a call, in each invocation. -/
theorem eval_over (p : Provider σ) (names : Bindings) (op : ListOp) (params : List String)
    (tool : String) (args : List Tree) (items : Tree) :
    eval p names (.over op params tool args items) =
      eval p names items >>= fun v ↦ itemsOf op v >>= fun xs ↦
        runListOp op (placeholder? names (Node.nodesAll args)) names params
          (fun names ↦ eval p names (.call tool args)) xs := by
  simp only [eval]

/-- The case of a call, which is also that of an invocation of a lambda. -/
private theorem satisfies_call {tool : String} {args : List Tree}
    (ih : ∀ t ∈ args, ∀ {names s}, I s → AllFulfil p I E T ⟨names, t, s⟩ →
      (eval p names t s).Satisfies I E T) {names : Bindings} {s : σ} (hs : I s)
    (h : AllFulfil p I E T ⟨names, .call tool args, s⟩) :
    (eval p names (.call tool args) s).Satisfies I E T := by
  have hcall : CallFulfils p I E T names tool args s := h.self hs
  rw [eval, callTool]
  refine Effect.satisfies_bind hcall.lookup fun {params s₁ tr₁} hparams hs₁ ↦ ?_
  have hargs : (evalAll p names args s₁).Satisfies I E T := by
    rw [evalAll_eq_each]
    refine Effect.satisfies_each hs₁ ?_
    rintro before t after vs s₂ tr₂ rfl hbefore hs₂
    rw [← evalAll_eq_each] at hbefore
    exact ih t (by simp) hs₂ (h.part (.arg hparams hbefore))
  exact Effect.satisfies_bind hargs fun hvs hs₂ ↦ hcall.invoke hparams hvs hs₂

/-- **An outcome is made by the parts.** What every evaluation in the course of one does by itself,
the outcome satisfies. -/
theorem satisfies_of_parts {a : Evaluation σ} (hI : I a.state) (h : a.AllFulfil p I E T) :
    (a.outcome p).Satisfies I E T := by
  obtain ⟨names, t, s⟩ := a
  simp only at hI
  rw [outcome]
  induction t using Node.induct generalizing names s with
  | value name literal => exact Effect.satisfies_done hI _
  | call tool args ih => exact satisfies_call (fun t ht {names s} ↦ ih t ht names s) hI h
  | program heading body ih =>
    rw [eval, evalAll_eq_each]
    refine Effect.satisfies_bind_pure (Effect.satisfies_each hI ?_)
    rintro before t after vs s₁ tr rfl hbefore hs₁
    rw [← evalAll_eq_each] at hbefore
    exact ih t (by simp) names s₁ hs₁ (h.part (.member hbefore))
  | cond test yes iht ihy =>
    rw [eval]
    refine Effect.satisfies_bind (iht names s hI (h.part .test)) fun {v s₁ tr} htest hs₁ ↦ ?_
    cases hv : v.truthy with
    | true => exact ihy names s₁ hs₁ (h.part (.yes htest hv))
    | false => exact Effect.satisfies_done hs₁ _
  | condElse test yes no iht ihy ihn =>
    rw [eval]
    refine Effect.satisfies_bind (iht names s hI (h.part .test)) fun {v s₁ tr} htest hs₁ ↦ ?_
    cases hv : v.truthy with
    | true => exact ihy names s₁ hs₁ (h.part (.yes htest hv))
    | false => exact ihn names s₁ hs₁ (h.part (.no htest hv))
  | lambda params tool args ih => exact Effect.satisfies_done hI _
  | listOp op params tool args items ih ihi =>
    obtain ⟨hnotList, hunready⟩ : E (.notList op) ∧ ∀ e : EvalFault, e.IsUnready → E e :=
      h.self hI
    rw [eval_over]
    refine Effect.satisfies_bind (ihi names s hI (h.part .items)) fun {v s₁ tr} hitems hs₁ ↦ ?_
    cases v with
    | list xs =>
      refine satisfies_runListOp hs₁ hunready fun {names' s₂} hinvoke hs₂ ↦ ?_
      exact satisfies_call (fun t ht {names s} ↦ ih t ht names s) hs₂
        (h.part (.body hitems hinvoke))
    | _ => exact Effect.satisfies_bind (Effect.satisfies_fail hs₁ hnotList) fun hx ↦ by cases hx
  | bare => exact Effect.satisfies_fail hI (h.self hI)

end

end Evaluation

end CallTree
