import CallTree.Proofs.Yields
import CallTree.Tool.Toolbox

/-!
# The order of siblings

The arguments of a call, and the nodes of a program, do not depend on one another and may be
evaluated together. `evalWith` leaves open how that is done: it is given the effects of the siblings
and puts them together in some way. The evaluator takes them from left to right
(`eval_eq_evalWith`). `evalInOrders` follows a schedule, which holds an order for each time that
siblings are met, so that one call may have its arguments evaluated in one order in the first
invocation of a lambda and in another order in the next.

With a provider whose answers depend on its state, two orders may come to different results. With
one whose answers depend only on what it is asked, the schedule cannot be told from what is seen of
the outcome (`evalInOrders_indistinguishable`).
-/

namespace CallTree

variable {σ σ' : Type}

/-! ## Evaluation with siblings put together in some way -/

/-- A way to put the effects of siblings together. -/
abbrev Gather (σ : Type) := List (Action σ Value) → Action σ (List Value)

mutual

/-- Evaluates a tree in bindings, with siblings put together in the given way. -/
def evalWith (gather : Gather σ) (p : Provider σ) (names : Bindings) : Tree → Action σ Value
  | .value name literal => Effect.done (leafValue names name literal)
  | .call tool args => callTool p tool args.length (gather (actionsWith gather p names args))
  | .program _ body => do return programResult (← gather (actionsWith gather p names body))
  | .cond test yes none => do
    let t ← evalWith gather p names test
    if t.truthy then evalWith gather p names yes else return .null
  | .cond test yes (some no) => do
    let t ← evalWith gather p names test
    if t.truthy then evalWith gather p names yes else evalWith gather p names no
  | .lambda params tool args => Effect.done (.closure params tool args names)
  | .over op params tool args items => do
    let v ← evalWith gather p names items
    let xs ← itemsOf op v
    runListOp op (placeholder? names (Node.nodesAll args)) names params
      (fun names ↦ callTool p tool args.length (gather (actionsWith gather p names args))) xs
  | .bare => Effect.fail .unsupported

/-- The effects of siblings, each for itself. -/
def actionsWith (gather : Gather σ) (p : Provider σ) (names : Bindings) :
    List Tree → List (Action σ Value)
  | [] => []
  | t :: ts => evalWith gather p names t :: actionsWith gather p names ts

end

theorem actionsWith_eq_map (gather : Gather σ) (p : Provider σ) (names : Bindings)
    (ts : List Tree) : actionsWith gather p names ts = ts.map (evalWith gather p names) := by
  induction ts with
  | nil => rfl
  | cons t ts ih => rw [actionsWith, ih, List.map_cons]

/-- One sibling after the other, from left to right. -/
def inTurn : Gather σ := Effect.each id

theorem inTurn_map (f : Tree → Action σ Value) (ts : List Tree) :
    inTurn (ts.map f) = Effect.each f ts := Effect.each_map id f ts

/-- The evaluator takes siblings from left to right. -/
theorem eval_eq_evalWith (p : Provider σ) (names : Bindings) (t : Tree) :
    eval p names t = evalWith inTurn p names t := by
  have hall : ∀ {ts : List Tree} {names : Bindings},
      (∀ t ∈ ts, eval p names t = evalWith inTurn p names t) →
        evalAll p names ts = inTurn (actionsWith inTurn p names ts) := by
    intro ts names h
    rw [actionsWith_eq_map, inTurn_map]
    induction ts with
    | nil => rfl
    | cons t ts ih =>
      obtain ⟨ht, hts⟩ := List.forall_mem_cons.mp h
      rw [evalAll, Effect.each, ht, ih hts]
  induction t using Node.induct generalizing names with
  | value name literal => rfl
  | call tool args ih => rw [eval, evalWith, hall fun t ht ↦ ih t ht names]
  | program heading body ih => rw [eval, evalWith, hall fun t ht ↦ ih t ht names]
  | cond test yes iht ihy => simp only [eval, evalWith, iht, ihy]
  | condElse test yes no iht ihy ihn => simp only [eval, evalWith, iht, ihy, ihn]
  | lambda params tool args ih => rfl
  | listOp op params tool args items ih ihi =>
    -- the body of the lambda is evaluated once for each item, in bindings of its own
    have hbody : ∀ names, evalAll p names args = inTurn (actionsWith inTurn p names args) :=
      fun names ↦ hall fun t ht ↦ ih t ht names
    simp only [eval, evalWith, ihi, hbody]
  | bare => rfl

/-! ## Providers whose answers depend on nothing else -/

/-- The definitions and the outputs of a provider's tools are functions of the tool's name and the
arguments. Its state may change, but no answer depends on it. -/
structure Provider.Answers (p : Provider σ) (definition : String → Except Fault Value)
    (output : String → List (String × Value) → Except Fault Value) : Prop where
  define : ∀ tool s, (p.define tool s).1 = definition tool
  invoke : ∀ tool args s, (p.invoke tool args s).1 = output tool args

section

variable {p : Provider σ} {q : Provider σ'} {definition : String → Except Fault Value}
  {output : String → List (String × Value) → Except Fault Value}

theorem ask_alike {α : Type} {x : Attempt σ Fault α} {y : Attempt σ' Fault α}
    {answer : Except Fault α} (hx : ∀ s, (x s).1 = answer) (hy : ∀ s, (y s).1 = answer) :
    (Action.ask x).Alike (Action.ask y) :=
  ⟨_, Effect.yields_of_attempt (ask_run x) hx, Effect.yields_of_attempt (ask_run y) hy⟩

theorem invoke_alike (hp : p.Answers definition output) (hq : q.Answers definition output)
    (tool : String) (args : List (String × Value)) :
    (Action.invoke p tool args).Alike (Action.invoke q tool args) :=
  ⟨_, Effect.yields_of_attempt (invoke_run p tool args) (hp.invoke tool args),
    Effect.yields_of_attempt (invoke_run q tool args) (hq.invoke tool args)⟩

theorem parametersFor_alike (hp : p.Answers definition output) (hq : q.Answers definition output)
    (tool : String) (count : Nat) :
    (parametersFor p tool count).Alike (parametersFor q tool count) := by
  refine (ask_alike (hp.define tool) (hq.define tool)).bind fun raw ↦ ?_
  split
  · exact .fail _
  · split
    · exact .fail _
    · split
      · exact .done _
      · exact .fail _

theorem callTool_alike (hp : p.Answers definition output) (hq : q.Answers definition output)
    (tool : String) (count : Nat) {args : Action σ (List Value)} {args' : Action σ' (List Value)}
    (h : args.Alike args') : (callTool p tool count args).Alike (callTool q tool count args') :=
  (parametersFor_alike hp hq _ _).bind fun _ ↦ h.bind fun _ ↦ invoke_alike hp hq _ _

end

/-! ## List operations -/

theorem itemsOf_alike (op : ListOp) (v : Value) :
    (itemsOf op v : Action σ (List Value)).Alike (itemsOf op v : Action σ' (List Value)) := by
  cases v with
  | list xs => exact .done xs
  | _ => exact .fail _

theorem keepItems_alike {f : Value → Action σ Value} {g : Value → Action σ' Value}
    (h : ∀ x, (f x).Alike (g x)) (xs : List Value) :
    (keepItems f xs).Alike (keepItems g xs) := by
  induction xs with
  | nil => exact .done []
  | cons x xs ih => exact (h x).bind fun y ↦ ih.bind fun ys ↦ .pure _

theorem foldItems_alike {f : Value → Value → Action σ Value} {g : Value → Value → Action σ' Value}
    (h : ∀ acc x, (f acc x).Alike (g acc x)) (acc : Value) (xs : List Value) :
    (foldItems f acc xs).Alike (foldItems g acc xs) := by
  induction xs generalizing acc with
  | nil => exact .done acc
  | cons x xs ih => exact (h acc x).bind fun acc ↦ ih acc

section

variable {body : Bindings → Action σ Value} {body' : Bindings → Action σ' Value}
  (h : ∀ names, (body names).Alike (body' names)) (names : Bindings) (params : List String)

include h

theorem reduceStep_alike (acc x : Value) :
    (reduceStep names params body acc x).Alike (reduceStep names params body' acc x) := by
  match params with
  | [p, q] => exact h _
  | [] | [_] | _ :: _ :: _ :: _ => exact .fail _

theorem reduceItems_alike (start? : String → Option Value) (items : List Value) :
    (reduceItems start? names params body items).Alike
      (reduceItems start? names params body' items) := by
  have hstep := reduceStep_alike h names params
  cases items with
  | nil => exact .done Value.null
  | cons first rest =>
    cases params with
    | nil => exact .fail _
    | cons a others =>
      cases hstart : start? a with
      | none =>
        simp only [reduceItems, hstart]
        exact .fail _
      | some start =>
        simp only [reduceItems, hstart]
        split
        · exact foldItems_alike hstep _ _
        · exact foldItems_alike hstep _ _

theorem runListOp_alike (op : ListOp) (start? : String → Option Value) (items : List Value) :
    (runListOp op start? names params body items).Alike
      (runListOp op start? names params body' items) := by
  cases op with
  | reduce => exact reduceItems_alike h names params start? items
  | map =>
    cases params with
    | nil => exact .fail _
    | cons p others => exact (Effect.Alike.each fun x _ ↦ h _).bind fun ys ↦ .pure _
  | filter =>
    cases params with
    | nil => exact .fail _
    | cons p others => exact (keepItems_alike (fun x ↦ h _) items).bind fun ys ↦ .pure _

end

/-! ## Two evaluations -/

/-- Two ways to put siblings together are alike when they are alike on effects that are. -/
def Gather.Alike (gather : Gather σ) (gather' : Gather σ') : Prop :=
  ∀ (ts : List Tree) (f : Tree → Action σ Value) (g : Tree → Action σ' Value),
    (∀ t ∈ ts, (f t).Alike (g t)) → (gather (ts.map f)).Alike (gather' (ts.map g))

/-- Evaluations with two providers of the same answers are alike when they put siblings together in
ways that are alike. -/
theorem evalWith_alike {gather : Gather σ} {gather' : Gather σ'} (hgather : gather.Alike gather')
    {p : Provider σ} {q : Provider σ'} {definition : String → Except Fault Value}
    {output : String → List (String × Value) → Except Fault Value}
    (hp : p.Answers definition output) (hq : q.Answers definition output) (names : Bindings)
    (t : Tree) : (evalWith gather p names t).Alike (evalWith gather' q names t) := by
  have hall : ∀ {ts : List Tree} (names : Bindings),
      (∀ t ∈ ts, ∀ names, (evalWith gather p names t).Alike (evalWith gather' q names t)) →
        (gather (actionsWith gather p names ts)).Alike
          (gather' (actionsWith gather' q names ts)) := by
    intro ts names h
    rw [actionsWith_eq_map, actionsWith_eq_map]
    exact hgather ts _ _ fun t ht ↦ h t ht names
  induction t using Node.induct generalizing names with
  | value name literal => exact .done _
  | call tool args ih => exact callTool_alike hp hq tool args.length (hall names ih)
  | program heading body ih => exact (hall names ih).bind fun vs ↦ .pure _
  | cond test yes iht ihy =>
    refine (iht names).bind fun v ↦ ?_
    split
    · exact ihy names
    · exact .pure _
  | condElse test yes no iht ihy ihn =>
    refine (iht names).bind fun v ↦ ?_
    split
    · exact ihy names
    · exact ihn names
  | lambda params tool args ih => exact .done _
  | listOp op params tool args items ih ihi =>
    refine (ihi names).bind fun v ↦ (itemsOf_alike op v).bind fun xs ↦ ?_
    exact runListOp_alike (fun names ↦ callTool_alike hp hq tool args.length (hall names ih)) names
      params op _ xs
  | bare => exact .fail _

/-! ## Schedules -/

/-- The orders in which siblings are evaluated, one for each time that siblings are met. -/
abbrev Schedule := ℕ → Order

/-- Puts siblings together in the order that comes next in the schedule. -/
def inNextOrder : Gather (σ × Schedule) := fun xs s ↦
  Effect.eachIn (s.2 0) id xs (s.1, fun k ↦ s.2 (k + 1))

/-- An attempt beside a schedule. -/
def besideSchedule {α : Type} (x : Attempt σ Fault α) : Attempt (σ × Schedule) Fault α := fun s ↦
  ((x s.1).1, ((x s.1).2, s.2))

/-- A provider beside a schedule. -/
def Provider.scheduled (p : Provider σ) : Provider (σ × Schedule) where
  list := besideSchedule p.list
  define tool := besideSchedule (p.define tool)
  invoke tool args := besideSchedule (p.invoke tool args)

/-- Evaluates a tree in bindings, with siblings evaluated one after another in the orders of a
schedule. -/
def evalInOrders (p : Provider σ) (orders : Schedule) (names : Bindings) (t : Tree) :
    Action σ Value := fun s ↦
  let o := evalWith inNextOrder p.scheduled names t (s, orders)
  ⟨o.result, o.state.1, o.trace⟩

theorem inTurn_alike_inNextOrder :
    (inTurn : Gather σ).Alike (inNextOrder : Gather (σ' × Schedule)) := by
  intro ts f g h
  obtain ⟨ω, heach, hin⟩ := Effect.yields_eachIn h
  refine ⟨ω, ?_, fun s ↦ ?_⟩
  · rw [inTurn_map]
    exact heach
  · rw [inNextOrder, Effect.eachIn_map]
    exact hin (s.2 0) _

/-- **The order of siblings does not show.** Let the answers of a provider depend only on what it is
asked. Whatever orders are chosen for the arguments of calls and the nodes of programs, each time
anew, an evaluation succeeds under all choices or under none. When it succeeds, all choices give the
same value and make the same tool calls, up to their order, and so does the evaluator. -/
theorem evalInOrders_indistinguishable {p : Provider σ}
    {definition : String → Except Fault Value}
    {output : String → List (String × Value) → Except Fault Value}
    (hp : p.Answers definition output) (names : Bindings) (t : Tree) :
    (∀ orders orders' s s',
      ((∃ v, (evalInOrders p orders names t s).result = .ok v) ↔
        ∃ v, (evalInOrders p orders' names t s').result = .ok v) ∧
      ∀ v v', (evalInOrders p orders names t s).result = .ok v →
        (evalInOrders p orders' names t s').result = .ok v' →
          v = v' ∧ (evalInOrders p orders names t s).trace.Perm
            (evalInOrders p orders' names t s').trace) ∧
    ∀ orders s s',
      ((∃ v, (eval p names t s).result = .ok v) ↔
        ∃ v, (evalInOrders p orders names t s').result = .ok v) ∧
      ∀ v v', (eval p names t s).result = .ok v →
        (evalInOrders p orders names t s').result = .ok v' →
          v = v' ∧ (eval p names t s).trace.Perm (evalInOrders p orders names t s').trace := by
  have hscheduled : p.scheduled.Answers definition output :=
    ⟨fun tool s ↦ hp.define tool s.1, fun tool args s ↦ hp.invoke tool args s.1⟩
  have halike : (eval p names t).Alike (evalWith inNextOrder p.scheduled names t) := by
    rw [eval_eq_evalWith]
    exact evalWith_alike inTurn_alike_inNextOrder hp hscheduled names t
  constructor
  · intro orders orders' s s'
    obtain ⟨ω, -, hω⟩ := halike
    exact Effect.Alike.outcome ⟨ω, hω, hω⟩ (s, orders) (s', orders')
  · intro orders s s'
    exact halike.outcome s (s', orders)

theorem Toolbox.answers_of_direct {b : Toolbox} (h : b.lookUp = .direct) :
    b.provider.Answers (fun name ↦ .ok ((b.find? name).elim .null (·.metadata)))
      fun name args ↦ match b.find? name with
        | some t => t.rule.apply name args
        | none => .error .noSuchKey := by
  constructor
  · intro tool s
    simp only [provider, h]
  · intro tool args s
    simp only [provider]
    rcases b.find? tool with _ | t <;> rfl

/-- Adding numbers. -/
def adding : Toolbox :=
  ⟨[⟨"add", SmallTool.metadataOf "add" [("a", none), ("b", none)], .sum⟩], .direct⟩

/-- Adds to each of two numbers a sum of its own, and then adds all up. -/
def sumOfSums : Tree :=
  .over .reduce ["acc", "x"] "add" [.call "add" [.value "acc" .null, .value "x" .null],
    .call "add" [.value "x" .null, .value "one" (.int 1)]] (.value "xs" (.list [.int 1, .int 2]))

theorem evalInOrders_indistinguishable_sumOfSums :
    (evalInOrders adding.provider (fun _ ↦ Order.reversed) [] sumOfSums none).result =
      .ok (.int 6) ∧
    (eval adding.provider [] sumOfSums none).trace.Perm
      (evalInOrders adding.provider (fun _ ↦ Order.reversed) [] sumOfSums none).trace := by
  have h := (evalInOrders_indistinguishable (adding.answers_of_direct rfl) [] sumOfSums).2
    (fun _ ↦ Order.reversed) none none
  have hresult : (eval adding.provider [] sumOfSums none).result = .ok (.int 6) := by cbv
  obtain ⟨v, hv⟩ := h.1.mp ⟨_, hresult⟩
  obtain ⟨rfl, hperm⟩ := h.2 _ _ hresult hv
  exact ⟨hv, hperm⟩

end CallTree
