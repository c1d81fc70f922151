import CallTree.Eval.Runs
import CallTree.Proofs.Contexts
import CallTree.Proofs.Parts

/-!
# The evaluator makes a run

What is put together of several lists can be taken apart again: a member comes from one of the
lists, and what stands before it there stands before it here, too (`Shuffles.split`). So much is
needed to find the strand that a demand belongs to.

The evaluator takes siblings from left to right and stops at the first failure. That is a run in
which the provider is asked one thing after another (`Provider.Serves`) and the siblings behind a
failure do nothing (`evalIn_performs`).
-/

namespace CallTree

/-! ## Lists put together -/

section

variable {α : Type} {as bs cs : List α} {ass : List (List α)}

theorem Shuffle.append (as bs : List α) : Shuffle as bs (as ++ bs) := by
  induction as with
  | nil =>
    induction bs with
    | nil => exact .nil
    | cons b bs ih => exact .right ih
  | cons a as ih => exact .left ih

theorem Shuffle.sublist (h : Shuffle as bs cs) : as.Sublist cs ∧ bs.Sublist cs := by
  induction h with
  | nil => exact ⟨.refl _, .refl _⟩
  | left _ ih => exact ⟨ih.1.cons_cons _, ih.2.cons _⟩
  | right _ ih => exact ⟨ih.1.cons _, ih.2.cons_cons _⟩

/-- A member of two lists put together is in one of them, and so is part of what is before it. -/
theorem Shuffle.split {before after : List α} {x : α} (h : Shuffle as bs (before ++ x :: after)) :
    (∃ before' after', as = before' ++ x :: after' ∧ before'.Sublist before) ∨
      ∃ before' after', bs = before' ++ x :: after' ∧ before'.Sublist before := by
  induction before generalizing as bs with
  | nil =>
    cases h with
    | left h => exact Or.inl ⟨[], _, rfl, .refl _⟩
    | right h => exact Or.inr ⟨[], _, rfl, .refl _⟩
  | cons b before ih =>
    cases h with
    | left h =>
      rcases ih h with ⟨before', after', rfl, hsub⟩ | ⟨before', after', rfl, hsub⟩
      · exact Or.inl ⟨b :: before', after', rfl, hsub.cons_cons b⟩
      · exact Or.inr ⟨before', after', rfl, hsub.cons b⟩
    | right h =>
      rcases ih h with ⟨before', after', rfl, hsub⟩ | ⟨before', after', rfl, hsub⟩
      · exact Or.inl ⟨before', after', rfl, hsub.cons b⟩
      · exact Or.inr ⟨b :: before', after', rfl, hsub.cons_cons b⟩

theorem Shuffles.sublist (h : Shuffles ass cs) (has : as ∈ ass) : as.Sublist cs := by
  induction h with
  | nil => exact absurd has List.not_mem_nil
  | cons _ hs ih =>
    obtain rfl | has := List.mem_cons.mp has
    · exact hs.sublist.1
    · exact (ih has).trans hs.sublist.2

theorem Shuffles.split {before after : List α} {x : α} (h : Shuffles ass (before ++ x :: after)) :
    ∃ as ∈ ass, ∃ before' after', as = before' ++ x :: after' ∧ before'.Sublist before := by
  generalize hcs : before ++ x :: after = cs at h
  induction h generalizing before after with
  | nil => exact absurd hcs (by simp)
  | cons h hs ih =>
    subst hcs
    rcases hs.split with ⟨before', after', rfl, hsub⟩ | ⟨before', after', rfl, hsub⟩
    · exact ⟨_, List.mem_cons_self, before', after', rfl, hsub⟩
    · obtain ⟨as, has, before'', after'', rfl, hsub'⟩ := ih rfl
      exact ⟨_, List.mem_cons_of_mem _ has, before'', after'', rfl, hsub'.trans hsub⟩

theorem Shuffles.replicate_nil (n : ℕ) : Shuffles (List.replicate n ([] : List α)) [] := by
  induction n with
  | zero => exact .nil
  | succ n ih => exact .cons ih .nil

end

/-! ## Siblings -/

theorem map_snd_withFirstLeaf (i : ℕ) (ts : List Tree) :
    (withFirstLeaf i ts).map Prod.snd = ts := by
  induction ts generalizing i with
  | nil => rfl
  | cons t ts ih => rw [withFirstLeaf, List.map_cons, ih]

theorem snd_mem_of_mem_withFirstLeaf {i j : ℕ} {t : Tree} {ts : List Tree}
    (h : (j, t) ∈ withFirstLeaf i ts) : t ∈ ts := by
  have hmem := List.mem_map_of_mem (f := Prod.snd) h
  rwa [map_snd_withFirstLeaf] at hmem

/-- The strands of some trees: each tree has one, its run. -/
structure Strands (c : Context) (i : ℕ) (ts : List Tree) (strands : List Strand)
    (rs : List Demand) : Prop where
  trees : strands.map (fun s ↦ (s.first, s.tree)) = withFirstLeaf i ts
  runs : ∀ s ∈ strands, (Job.eval c s.first s.tree).Runs s.demands s.progress
  shuffle : Shuffles (strands.map Strand.demands) rs

theorem Strands.cons {c : Context} {i : ℕ} {t : Tree} {ts : List Tree} {strands : List Strand}
    {rs rs' : List Demand} {r : Progress} (hrun : (Job.eval c i t).Runs rs r)
    (h : Strands c (i + t.leaves.length) ts strands rs') :
    Strands c i (t :: ts) (⟨i, t, rs, r⟩ :: strands) (rs ++ rs') where
  trees := by rw [List.map_cons, h.trees, withFirstLeaf]
  runs := List.forall_mem_cons.mpr ⟨hrun, h.runs⟩
  shuffle := .cons h.shuffle (.append rs rs')

/-- Siblings that do nothing. -/
theorem Strands.idle (c : Context) (i : ℕ) (ts : List Tree) :
    Strands c i ts ((withFirstLeaf i ts).map fun e ↦ ⟨e.1, e.2, [], none⟩) [] where
  trees := by
    rw [List.map_map]
    exact List.map_id _
  runs := by
    intro s hs
    obtain ⟨e, -, rfl⟩ := List.mem_map.mp hs
    exact .idle
  shuffle := by
    simpa only [List.map_map, Function.comp_def, List.map_const'] using Shuffles.replicate_nil _

/-! ## One demand after another -/

/-- The demands are answered by a provider one after another, which takes it from one state to
another. -/
inductive Provider.Serves {σ : Type} (p : Provider σ) : σ → List Demand → σ → Prop where
  | nil {s : σ} : p.Serves s [] s
  | define {tool : String} {s s' : σ} {rs : List Demand} (h : p.Serves (p.define tool s).2 rs s') :
      p.Serves s (.define tool (some (p.define tool s).1) :: rs) s'
  | invoke {tool : String} {args : List (String × Value)} {s s' : σ} {rs : List Demand}
      (h : p.Serves (p.invoke tool args s).2 rs s') :
      p.Serves s (.invoke ⟨tool, args⟩ (some (p.invoke tool args s).1) :: rs) s'

theorem Provider.Serves.append {σ : Type} {p : Provider σ} {s s₁ s₂ : σ} {rs rs' : List Demand}
    (h : p.Serves s rs s₁) (h' : p.Serves s₁ rs' s₂) : p.Serves s (rs ++ rs') s₂ := by
  induction h with
  | nil => exact h'
  | define _ ih => exact .define (ih h')
  | invoke _ ih => exact .invoke (ih h')

theorem toolCalls_append (rs rs' : List Demand) :
    toolCalls (rs ++ rs') = toolCalls rs ++ toolCalls rs' := List.filterMap_append

section

variable {σ : Type} {p : Provider σ}

/-- Demands that are answered one after another, with the state and the tool calls that an effect
leaves behind. -/
structure Leaves {α : Type} (p : Provider σ) (s : σ) (rs : List Demand)
    (o : Outcome σ EvalFault Call α) : Prop where
  serves : p.Serves s rs o.state
  calls : toolCalls rs = o.trace

/-- An outcome comes about by a run in which one demand is made after another. -/
def Job.Performs (p : Provider σ) (job : Job) (s : σ) (o : Outcome σ EvalFault Call Value) : Prop :=
  ∃ rs, job.Runs rs (some o.result) ∧ Leaves p s rs o

theorem leaves_nil {α : Type} (r : Except EvalFault α) (s : σ) :
    Leaves p s [] (⟨r, s, []⟩ : Outcome σ EvalFault Call α) := ⟨.nil, rfl⟩

theorem Leaves.bind_error {α β : Type} {x : Action σ α} {f : α → Action σ β} {s : σ}
    {rs : List Demand} {e : EvalFault} (hx : (x s).result = .error e) (h : Leaves p s rs (x s)) :
    Leaves p s rs ((x >>= f) s) := by
  rw [Effect.bind_of_error hx]
  exact ⟨h.serves, h.calls⟩

theorem Leaves.bind_ok {α β : Type} {x : Action σ α} {f : α → Action σ β} {s : σ}
    {rs rs' : List Demand} {a : α} (hx : (x s).result = .ok a) (h : Leaves p s rs (x s))
    (h' : Leaves p (x s).state rs' (f a (x s).state)) : Leaves p s (rs ++ rs') ((x >>= f) s) := by
  rw [Effect.bind_of_ok hx]
  refine ⟨h.serves.append h'.serves, ?_⟩
  rw [toolCalls_append, h.calls, h'.calls]

/-! ## Calls -/

theorem parametersFor_run (p : Provider σ) (tool : String) (count : ℕ) (s : σ) :
    parametersFor p tool count s =
      ⟨parametersOf tool count (p.define tool s).1, (p.define tool s).2, []⟩ := by
  rcases hdefine : p.define tool s with ⟨answer, s₁⟩
  have hask : Action.ask (p.define tool) s = ⟨answer.mapError .raised, s₁, []⟩ := by
    rw [ask_run, hdefine]
  cases answer with
  | error f => rw [parametersFor, Effect.bind_of_error (congrArg Outcome.result hask), hask]; rfl
  | ok raw =>
    rw [parametersFor, Effect.bind_eq_of_ok hask, parametersOf]
    cases raw.truthy with
    | false => rfl
    | true =>
      cases Definition.ofValue (some tool) raw with
      | error d => rfl
      | ok d =>
        by_cases hcount : d.parameters.length = count
        · simp only [Bool.not_true, Bool.false_eq_true, if_false, if_pos hcount]
          rfl
        · simp only [Bool.not_true, Bool.false_eq_true, if_false, if_neg hcount]
          rfl

/-- Siblings that are evaluated from left to right, those behind a failure left alone. -/
theorem evalAllIn_strands {c : Context} {ts : List Tree}
    (h : ∀ t ∈ ts, ∀ i s, (Job.eval c i t).Performs p s (evalIn p c i t s)) (i : ℕ) (s : σ) :
    ∃ strands rs, Strands c i ts strands rs ∧
      Together (strands.map Strand.progress) (some (evalAllIn p c i ts s).result) ∧
      Leaves p s rs (evalAllIn p c i ts s) := by
  induction ts generalizing i s with
  | nil =>
    have hnone : Together [] (some (.ok [])) := .values rfl
    exact ⟨[], [], ⟨rfl, List.forall_mem_nil _, .nil⟩, hnone, leaves_nil _ _⟩
  | cons t ts ih =>
    obtain ⟨ht, hts⟩ := List.forall_mem_cons.mp h
    obtain ⟨rs, hrun, hleaves⟩ := ht i s
    rw [evalAllIn]
    cases hresult : (evalIn p c i t s).result with
    | error e =>
      rw [hresult] at hrun
      refine ⟨_, rs ++ [], .cons hrun (.idle c _ ts), ?_, ?_⟩
      · rw [Effect.result_bind_of_error hresult]
        exact .fault List.mem_cons_self
      · rw [List.append_nil]
        exact hleaves.bind_error hresult
    | ok v =>
      rw [hresult] at hrun
      obtain ⟨strands, rs', hstrands, htogether, hleaves'⟩ :=
        ih hts (i + t.leaves.length) (evalIn p c i t s).state
      refine ⟨_, rs ++ rs', hstrands.cons hrun, ?_, ?_⟩
      · rw [Effect.result_bind_of_ok hresult]
        cases hrest : (evalAllIn p c (i + t.leaves.length) ts (evalIn p c i t s).state).result with
        | error e =>
          rw [Effect.result_bind_of_error hrest]
          rw [hrest] at htogether
          cases htogether with
          | fault he => exact .fault (List.mem_cons_of_mem _ he)
        | ok vs =>
          rw [Effect.result_bind_of_ok hrest]
          rw [hrest] at htogether
          cases htogether with
          | values hvs =>
            show Together _ (some (.ok (v :: vs)))
            exact .values (by rw [List.map_cons, hvs, List.map_cons])
      · refine hleaves.bind_ok hresult ?_
        cases hrest : (evalAllIn p c (i + t.leaves.length) ts (evalIn p c i t s).state).result with
        | error e => exact hleaves'.bind_error hrest
        | ok vs =>
          have hdone := hleaves'.bind_ok (f := fun vs ↦ pure (v :: vs)) hrest (leaves_nil _ _)
          rwa [List.append_nil] at hdone

theorem performs_call {c : Context} {args : List Tree}
    (h : ∀ t ∈ args, ∀ i s, (Job.eval c i t).Performs p s (evalIn p c i t s)) (tool : String)
    (i : ℕ) (s : σ) :
    (Job.eval c i (.call tool args)).Performs p s (evalIn p c i (.call tool args) s) := by
  have hparams := parametersFor_run p (toolName tool) args.length s
  have hdefine {rs : List Demand} {s' : σ}
      (h : p.Serves (p.define (toolName tool) s).2 rs s') : p.Serves s
        (.define (toolName tool) (some (p.define (toolName tool) s).1) :: rs) s' := .define h
  rw [evalIn, callTool]
  cases hp : parametersOf (toolName tool) args.length (p.define (toolName tool) s).1 with
  | error e =>
    rw [hp] at hparams
    rw [Effect.bind_of_error (congrArg Outcome.result hparams), hparams]
    exact ⟨_, .refused hp, hdefine .nil, rfl⟩
  | ok params =>
    rw [hp] at hparams
    obtain ⟨strands, rs, hstrands, htogether, hleaves⟩ :=
      evalAllIn_strands h i (p.define (toolName tool) s).2
    rw [Effect.bind_eq_of_ok hparams]
    generalize hargs : evalAllIn p c i args (p.define (toolName tool) s).2 = o at htogether hleaves
    obtain ⟨result, s₁, trace⟩ := o
    cases result with
    | error e =>
      have hend : Concludes (toolName tool) params (some (.error e)) [] (some (.error e)) := .fault
      rw [Effect.bind_of_error (congrArg Outcome.result hargs), hargs]
      refine ⟨_, .call hp hstrands.trees hstrands.runs hstrands.shuffle htogether hend, ?_, ?_⟩
      · rw [List.append_nil]
        exact hdefine hleaves.serves
      · rw [List.append_nil]
        exact hleaves.calls
    | ok vs =>
      have hend : Concludes (toolName tool) params (some (.ok vs))
          [.invoke ⟨toolName tool, params.zip vs⟩
            (some (p.invoke (toolName tool) (params.zip vs) s₁).1)]
          (some ((p.invoke (toolName tool) (params.zip vs) s₁).1.mapError .raised)) := .answered
      rw [Effect.bind_eq_of_ok hargs, invoke_run]
      refine ⟨_, .call hp hstrands.trees hstrands.runs hstrands.shuffle htogether hend, ?_, ?_⟩
      · exact hdefine (hleaves.serves.append (.invoke .nil))
      · have hcalls : toolCalls rs = trace := hleaves.calls
        rw [← hcalls]
        exact toolCalls_append _ _

/-! ## List operations -/

/-- Goes through rounds, with a lambda that is given by what it does in bindings. -/
def through (rounds : Rounds) (body : Bindings → Action σ Value) :
    Value → List Value → Action σ Value
  | acc, [] => Effect.done acc
  | acc, x :: xs =>
    match rounds.bind acc x with
    | none => Effect.fail .parameterCount
    | some names => do
      let y ← body names
      through rounds body (rounds.next acc x y) xs

theorem through_map (body : Bindings → Action σ Value) (names : Bindings) (a : String)
    (ys xs : List Value) :
    (do return Value.list (ys ++ (← Effect.each (fun x ↦ body (names.extend [(a, x)])) xs))) =
      through (.map names a) body (.list ys) xs := by
  have : LawfulMonad (Effect σ EvalFault Call) := Effect.lawfulMonad
  induction xs generalizing ys with
  | nil =>
    have hdone : (Effect.each (fun x ↦ body (names.extend [(a, x)])) [] : Action σ _) = pure [] :=
      rfl
    rw [hdone, pure_bind, List.append_nil]
    rfl
  | cons x xs ih =>
    simp only [Effect.each, bind_assoc, pure_bind]
    refine bind_congr fun y ↦ Eq.trans ?_ (ih (ys ++ [y]))
    simp only [List.append_assoc, List.singleton_append]

theorem through_filter (body : Bindings → Action σ Value) (names : Bindings) (a : String)
    (ys xs : List Value) :
    (do return Value.list (ys ++ (← keepItems (fun x ↦ body (names.extend [(a, x)])) xs))) =
      through (.filter names a) body (.list ys) xs := by
  have : LawfulMonad (Effect σ EvalFault Call) := Effect.lawfulMonad
  induction xs generalizing ys with
  | nil =>
    have hdone : (keepItems (fun x ↦ body (names.extend [(a, x)])) [] : Action σ _) = pure [] := rfl
    rw [hdone, pure_bind, List.append_nil]
    rfl
  | cons x xs ih =>
    simp only [keepItems, bind_assoc, pure_bind]
    refine bind_congr fun y ↦ ?_
    by_cases hy : y.truthy = true
    · have hnext : (Rounds.filter names a).next (.list ys) x y = .list (ys ++ [x]) := if_pos hy
      rw [hnext, ← ih]
      simp only [if_pos hy, List.append_assoc, List.singleton_append]
    · have hnext : (Rounds.filter names a).next (.list ys) x y = .list ys := if_neg hy
      rw [hnext, ← ih]
      simp only [if_neg hy]

theorem reduceStep_eq_elim (body : Bindings → Action σ Value) (names : Bindings)
    (params : List String) (acc x : Value) :
    reduceStep names params body acc x =
      ((Rounds.reduce names params).bind acc x).elim (Effect.fail .parameterCount) body := by
  rcases params with _ | ⟨a, _ | ⟨b, _ | ⟨_, _⟩⟩⟩ <;> rfl

theorem through_reduce (body : Bindings → Action σ Value) (names : Bindings)
    (params : List String) (acc : Value) (xs : List Value) :
    foldItems (reduceStep names params body) acc xs =
      through (.reduce names params) body acc xs := by
  induction xs generalizing acc with
  | nil => rfl
  | cons x xs ih =>
    rw [foldItems, through, reduceStep_eq_elim]
    cases (Rounds.reduce names params).bind acc x with
    | none => rfl
    | some names' => exact bind_congr fun y ↦ ih y

/-- A list operation goes through its rounds. -/
theorem runListOp_eq_through (op : ListOp) (start? : String → Option Value) (names : Bindings)
    (params : List String) (body : Bindings → Action σ Value) (xs : List Value) :
    runListOp op start? names params body xs =
      match op.rounds start? names params xs with
      | .error e => Effect.fail e
      | .ok (rounds, acc, rest) => through rounds body acc rest := by
  cases op with
  | map =>
    cases params with
    | nil => rfl
    | cons a others => exact through_map body names a [] xs
  | filter =>
    cases params with
    | nil => rfl
    | cons a others => exact through_filter body names a [] xs
  | reduce =>
    cases xs with
    | nil => rfl
    | cons first rest =>
      cases params with
      | nil => rfl
      | cons accumulator others =>
        simp only [runListOp, reduceItems, ListOp.rounds]
        cases start? accumulator with
        | none => rfl
        | some start =>
          by_cases hnull : start.isNull = true
          · simp only [if_pos hnull]
            exact through_reduce body names _ first rest
          · simp only [if_neg hnull]
            exact through_reduce body names _ start (first :: rest)

theorem performs_loop {c : Context} {i : ℕ} {tool : String} {args : List Tree}
    {body : Bindings → Action σ Value}
    (hbody : ∀ names s, (Job.eval { c with names } i (.call tool args)).Performs p s (body names s))
    (rounds : Rounds) (acc : Value) (xs : List Value) (s : σ) :
    (Job.loop rounds c i tool args acc xs).Performs p s (through rounds body acc xs s) := by
  induction xs generalizing acc s with
  | nil => exact ⟨[], .finished, leaves_nil _ _⟩
  | cons x xs ih =>
    cases hbind : rounds.bind acc x with
    | none =>
      simp only [through, hbind]
      exact ⟨[], .unbound hbind, leaves_nil _ _⟩
    | some names =>
      simp only [through, hbind]
      obtain ⟨rs, hrun, hleaves⟩ := hbody names s
      cases hresult : (body names s).result with
      | error e =>
        rw [hresult] at hrun
        refine ⟨rs, ?_, hleaves.bind_error hresult⟩
        rw [Effect.result_bind_of_error hresult]
        exact .lastRound hbind hrun fun v h ↦ by cases h
      | ok y =>
        rw [hresult] at hrun
        obtain ⟨rs', hrun', hleaves'⟩ := ih (rounds.next acc x y) (body names s).state
        refine ⟨rs ++ rs', ?_, hleaves.bind_ok hresult hleaves'⟩
        rw [Effect.result_bind_of_ok hresult]
        exact .round hbind hrun hrun'

/-- A list operation whose items are there. -/
theorem performs_over {c : Context} {i : ℕ} {op : ListOp} {params : List String} {tool : String}
    {args : List Tree} {items : Tree} {rs : List Demand} {v : Value}
    {body : Bindings → Action σ Value}
    (hbody : ∀ names s, (Job.eval { c with names } i (.call tool args)).Performs p s (body names s))
    (hitems : (Job.eval c (i + (Node.leavesAll args).length) items).Runs rs (some (.ok v)))
    (s : σ) :
    let x : Action σ Value := itemsOf op v >>= runListOp op
      (fun name ↦ c.placeholder? name i (Node.nodesAll args)) c.names params body
    ∃ rs', (Job.eval c i (.over op params tool args items)).Runs (rs ++ rs')
      (some (x s).result) ∧ Leaves p s rs' (x s) := by
  cases v with
  | list xs =>
    have : LawfulMonad (Effect σ EvalFault Call) := Effect.lawfulMonad
    have hdone : (itemsOf op (.list xs) : Action σ _) = pure xs := rfl
    rw [hdone, pure_bind, runListOp_eq_through]
    cases hrounds : op.rounds (fun name ↦ c.placeholder? name i (Node.nodesAll args)) c.names params
        xs with
    | error e =>
      refine ⟨[], ?_, leaves_nil _ _⟩
      rw [List.append_nil]
      exact .unready hitems hrounds
    | ok plan =>
      obtain ⟨rounds, acc, rest⟩ := plan
      obtain ⟨rs', hloop, hleaves⟩ := performs_loop hbody rounds acc rest s
      exact ⟨rs', .over hitems hrounds hloop, hleaves⟩
  | _ =>
    refine ⟨[], ?_, leaves_nil _ _⟩
    rw [List.append_nil]
    exact .notList hitems fun xs h ↦ by cases h

/-! ## Whole trees -/

/-- **The evaluator makes a run.** What it comes to, the state it leaves the provider in and the
tool calls in its trace are those of a run in which the provider is asked one thing after
another. -/
theorem evalIn_performs (p : Provider σ) (t : Tree) (c : Context) (i : ℕ) (s : σ) :
    (Job.eval c i t).Performs p s (evalIn p c i t s) := by
  induction t using Node.induct generalizing c i s with
  | value name literal =>
    rw [evalIn]
    exact ⟨[], .value, leaves_nil _ _⟩
  | call tool args ih => exact performs_call (fun t ht ↦ ih t ht c) tool i s
  | program heading body ih =>
    obtain ⟨strands, rs, hstrands, htogether, hleaves⟩ :=
      evalAllIn_strands (fun t ht ↦ ih t ht c) i s
    have hrun : (Job.eval c i (.program heading body)).Runs rs
        (some ((evalAllIn p c i body s).result.map programResult)) :=
      .program hstrands.trees hstrands.runs hstrands.shuffle htogether
    rw [evalIn]
    cases hresult : (evalAllIn p c i body s).result with
    | error e =>
      rw [hresult] at hrun
      refine ⟨rs, ?_, hleaves.bind_error hresult⟩
      rw [Effect.result_bind_of_error hresult]
      exact hrun
    | ok vs =>
      rw [hresult] at hrun
      refine ⟨rs ++ [], ?_, hleaves.bind_ok hresult (leaves_nil _ _)⟩
      rw [Effect.result_bind_of_ok hresult, List.append_nil]
      exact hrun
  | cond test yes iht ihy =>
    obtain ⟨rs, hrun, hleaves⟩ := iht c i s
    rw [evalIn]
    cases hresult : (evalIn p c i test s).result with
    | error e =>
      rw [hresult] at hrun
      refine ⟨rs, ?_, hleaves.bind_error hresult⟩
      rw [Effect.result_bind_of_error hresult]
      exact .undecided hrun fun v h ↦ by cases h
    | ok v =>
      rw [hresult] at hrun
      cases hv : v.truthy with
      | true =>
        obtain ⟨rs', hrun', hleaves'⟩ := ihy c (i + test.leaves.length) (evalIn p c i test s).state
        refine ⟨rs ++ rs', ?_, hleaves.bind_ok hresult (by rwa [if_pos hv])⟩
        rw [Effect.result_bind_of_ok hresult, if_pos hv]
        exact .yes hrun hv hrun'
      | false =>
        have hv' : ¬ v.truthy = true := Bool.eq_false_iff.mp hv
        refine ⟨rs ++ [], ?_, hleaves.bind_ok hresult (by rw [if_neg hv']; exact leaves_nil _ _)⟩
        rw [Effect.result_bind_of_ok hresult, if_neg hv', List.append_nil]
        exact .noBranch hrun hv
  | condElse test yes no iht ihy ihn =>
    obtain ⟨rs, hrun, hleaves⟩ := iht c i s
    rw [evalIn]
    cases hresult : (evalIn p c i test s).result with
    | error e =>
      rw [hresult] at hrun
      refine ⟨rs, ?_, hleaves.bind_error hresult⟩
      rw [Effect.result_bind_of_error hresult]
      exact .undecided hrun fun v h ↦ by cases h
    | ok v =>
      rw [hresult] at hrun
      cases hv : v.truthy with
      | true =>
        obtain ⟨rs', hrun', hleaves'⟩ := ihy c (i + test.leaves.length) (evalIn p c i test s).state
        refine ⟨rs ++ rs', ?_, hleaves.bind_ok hresult (by rwa [if_pos hv])⟩
        rw [Effect.result_bind_of_ok hresult, if_pos hv]
        exact .yes hrun hv hrun'
      | false =>
        have hv' : ¬ v.truthy = true := Bool.eq_false_iff.mp hv
        obtain ⟨rs', hrun', hleaves'⟩ :=
          ihn c (i + test.leaves.length + yes.leaves.length) (evalIn p c i test s).state
        refine ⟨rs ++ rs', ?_, hleaves.bind_ok hresult (by rwa [if_neg hv'])⟩
        rw [Effect.result_bind_of_ok hresult, if_neg hv']
        exact .no hrun hv hrun'
  | lambda params tool args ih =>
    rw [evalIn]
    exact ⟨[], .lambda, leaves_nil _ _⟩
  | listOp op params tool args items ih ihi =>
    obtain ⟨rs, hrun, hleaves⟩ := ihi c (i + (Node.leavesAll args).length) s
    rw [evalIn]
    cases hresult : (evalIn p c (i + (Node.leavesAll args).length) items s).result with
    | error e =>
      rw [hresult] at hrun
      refine ⟨rs, ?_, hleaves.bind_error hresult⟩
      rw [Effect.result_bind_of_error hresult]
      exact .noItems hrun fun v h ↦ by cases h
    | ok v =>
      rw [hresult] at hrun
      -- the body of the lambda is a call, evaluated in the bindings of each invocation
      have hbody (names : Bindings) (s : σ) :
          (Job.eval { c with names } i (.call tool args)).Performs p s
            (callTool p tool args.length (evalAllIn p { c with names } i args) s) := by
        have hcall := performs_call (c := { c with names }) (fun t ht ↦ ih t ht _) tool i s
        rwa [evalIn] at hcall
      obtain ⟨rs', hrun', hleaves'⟩ := performs_over hbody hrun
        (evalIn p c (i + (Node.leavesAll args).length) items s).state
      refine ⟨rs ++ rs', ?_, hleaves.bind_ok hresult hleaves'⟩
      rw [Effect.result_bind_of_ok hresult]
      exact hrun'
  | bare =>
    rw [evalIn]
    exact ⟨[], .bare, leaves_nil _ _⟩

end

end CallTree
