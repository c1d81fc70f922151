import CallTree.Proofs.Runs
import CallTree.Tool.Toolbox

/-!
# Tool calls are well formed

Arguments are positional in a program and named in a tool call. What pairs them is the order of the
properties in the tool's definition, which the provider is asked for at every call and which is
normalised under the name that was asked for. A call is made only if there are as many arguments as
properties, and only after all arguments have their values.

So much can be said of every call in every run, however siblings are interleaved and whether or not
one of them has failed, since each tool call was made by the evaluation of a call of the program in
the course of the run (`calls_wellFormed`). `Job.Part` says what is done in the course of a run.
-/

namespace CallTree

/-! ## What is done in the course of a job -/

namespace Job

/-- One job is done right on the way of another: `before` are the demands that were made before, and
what is waited for first has come to a value by some of them. -/
inductive Part (before : List Demand) : Job → Job → Prop where
  | arg {c : Context} {i j : ℕ} {tool : String} {args : List Tree} {t : Tree}
      (h : (j, t) ∈ withFirstLeaf i args) :
      Part before (.eval c i (.call tool args)) (.eval c j t)
  | member {c : Context} {i j : ℕ} {heading : Heading} {body : List Tree} {t : Tree}
      (h : (j, t) ∈ withFirstLeaf i body) :
      Part before (.eval c i (.program heading body)) (.eval c j t)
  | test {c : Context} {i : ℕ} {test yes : Tree} {no : Option Tree} :
      Part before (.eval c i (.cond test yes no)) (.eval c i test)
  | yes {c : Context} {i : ℕ} {test yes : Tree} {no : Option Tree} {rs : List Demand} {v : Value}
      (htest : (Job.eval c i test).Runs rs (some (.ok v))) (hrs : rs.Sublist before)
      (hv : v.truthy = true) :
      Part before (.eval c i (.cond test yes no)) (.eval c (i + test.leaves.length) yes)
  | no {c : Context} {i : ℕ} {test yes no : Tree} {rs : List Demand} {v : Value}
      (htest : (Job.eval c i test).Runs rs (some (.ok v))) (hrs : rs.Sublist before)
      (hv : v.truthy = false) :
      Part before (.eval c i (.cond test yes (some no)))
        (.eval c (i + test.leaves.length + yes.leaves.length) no)
  | items {c : Context} {i : ℕ} {op : ListOp} {params : List String} {tool : String}
      {args : List Tree} {items : Tree} :
      Part before (.eval c i (.over op params tool args items))
        (.eval c (i + (Node.leavesAll args).length) items)
  | loop {c : Context} {i : ℕ} {op : ListOp} {params : List String} {tool : String}
      {args : List Tree} {items : Tree} {rs : List Demand} {xs rest : List Value} {rounds : Rounds}
      {acc : Value}
      (hitems : (Job.eval c (i + (Node.leavesAll args).length) items).Runs rs
        (some (.ok (.list xs)))) (hrs : rs.Sublist before)
      (hrounds : op.rounds (fun name ↦ c.placeholder? name i (Node.nodesAll args)) c.names params
        xs = .ok (rounds, acc, rest)) :
      Part before (.eval c i (.over op params tool args items))
        (.loop rounds c i tool args acc rest)
  /-- The body of a lambda, in the bindings of one invocation. -/
  | round {rounds : Rounds} {c : Context} {i : ℕ} {tool : String} {args : List Tree} {acc x : Value}
      {xs : List Value} {names : Bindings} (hbind : rounds.bind acc x = some names) :
      Part before (.loop rounds c i tool args acc (x :: xs))
        (.eval { c with names } i (.call tool args))
  | next {rounds : Rounds} {c : Context} {i : ℕ} {tool : String} {args : List Tree}
      {acc x y : Value} {xs : List Value} {names : Bindings} {rs : List Demand}
      (hbind : rounds.bind acc x = some names)
      (hbody : (Job.eval { c with names } i (.call tool args)).Runs rs (some (.ok y)))
      (hrs : rs.Sublist before) :
      Part before (.loop rounds c i tool args acc (x :: xs))
        (.loop rounds c i tool args (rounds.next acc x y) xs)

/-- One job is done in the course of another one, at any depth. -/
def Within (before : List Demand) (b a : Job) : Prop := Relation.ReflTransGen (Part before) a b

/-- The tree that a job is about; that of the rounds of a list operation is the body of its
lambda. -/
def tree : Job → Tree
  | .eval _ _ t => t
  | .loop _ _ _ tool args _ _ => .call tool args

theorem Part.mem_nodes {before : List Demand} {a b : Job} (h : Part before a b) :
    b.tree ∈ a.tree.nodes := by
  have hchild {u t : Tree} (hu : u ∈ t.children) : u ∈ t.nodes := by
    rw [Node.nodes_eq_cons]
    exact List.mem_cons_of_mem _ (Node.mem_nodesAll_of_mem hu (Node.self_mem_nodes u))
  cases h with
  | arg h => exact hchild (snd_mem_of_mem_withFirstLeaf h)
  | member h => exact hchild (snd_mem_of_mem_withFirstLeaf h)
  | loop => simp [tree, Node.nodes]
  | round => exact Node.self_mem_nodes _
  | next => exact Node.self_mem_nodes _
  | _ => exact hchild (by simp [tree, Node.children])

/-- What is evaluated in the course of a job is a node of its tree. -/
theorem Within.mem_nodes {before : List Demand} {a b : Job} (h : Within before b a) :
    b.tree ∈ a.tree.nodes := by
  induction h with
  | refl => exact Node.self_mem_nodes _
  | tail _ hpart ih => exact Node.nodes_trans ih hpart.mem_nodes

theorem Part.mono {before before' : List Demand} (hsub : before.Sublist before') {a b : Job}
    (h : Part before a b) : Part before' a b := by
  cases h with
  | arg h => exact .arg h
  | member h => exact .member h
  | test => exact .test
  | yes htest hrs hv => exact .yes htest (hrs.trans hsub) hv
  | no htest hrs hv => exact .no htest (hrs.trans hsub) hv
  | items => exact .items
  | loop hitems hrs hrounds => exact .loop hitems (hrs.trans hsub) hrounds
  | round hbind => exact .round hbind
  | next hbind hbody hrs => exact .next hbind hbody (hrs.trans hsub)

end Job

/-! ## How tool calls come about -/

/-- How a tool call comes about when the call `tool(args)` of a program is evaluated in a context:
among the demands before is the question for the definition of the tool, answered with `raw`, which
is normalised to the definition `d`. -/
structure Call.MadeBy (call : Call) (before : List Demand) (c : Context) (i : ℕ) (tool : String)
    (args : List Tree) (raw : Value) (d : Definition) : Prop where
  name : call.tool = toolName tool
  described : .define (toolName tool) (some (.ok raw)) ∈ before
  normalised : Definition.ofValue (some (toolName tool)) raw = .ok d
  /-- The arguments are named by the properties, in their order. -/
  keys : call.args.map Prod.fst = d.parameters
  /-- No two arguments have one name, the answer being a mapping, which has every key once. -/
  distinct : ∀ props, raw.get? "properties" = some (.map props) → (props.map Prod.fst).Nodup →
    (call.args.map Prod.fst).Nodup
  count : call.args.length = args.length
  /-- Each argument is what its node has come to in this context, by some of the demands before. -/
  values : ∀ (k : ℕ) (h : k < args.length) (h' : k < call.args.length),
    ∃ rs, rs.Sublist before ∧
      (Job.eval c (i + (Node.leavesAll (args.take k)).length) args[k]).Runs rs
        (some (.ok call.args[k].2))

/-- A tool call was made by the evaluation of a call in the course of a job. -/
def Call.MadeWithin (call : Call) (before : List Demand) (job : Job) : Prop :=
  ∃ c i tool args raw d, Job.Within before (.eval c i (.call tool args)) job ∧
    call.MadeBy before c i tool args raw d

theorem Call.MadeBy.mono {call : Call} {before before' : List Demand} {c : Context} {i : ℕ}
    {tool : String} {args : List Tree} {raw : Value} {d : Definition}
    (h : call.MadeBy before c i tool args raw d) (hsub : before.Sublist before') :
    call.MadeBy before' c i tool args raw d where
  name := h.name
  described := hsub.subset h.described
  normalised := h.normalised
  keys := h.keys
  distinct := h.distinct
  count := h.count
  values k hk hk' := by
    obtain ⟨rs, hrs, hrun⟩ := h.values k hk hk'
    exact ⟨rs, hrs.trans hsub, hrun⟩

/-- What was made in the course of a part was made in the course of the whole. -/
theorem Call.MadeWithin.of_part {call : Call} {before before' : List Demand} {a b : Job}
    (h : call.MadeWithin before b) (hsub : before.Sublist before') (hpart : Job.Part before' a b) :
    call.MadeWithin before' a := by
  obtain ⟨c, i, tool, args, raw, d, hwithin, hmade⟩ := h
  refine ⟨c, i, tool, args, raw, d, ?_, hmade.mono hsub⟩
  have hmono : Job.Within before' (.eval c i (.call tool args)) b :=
    Relation.ReflTransGen.mono (fun _ _ ↦ Job.Part.mono hsub) _ _ hwithin
  exact .head hpart hmono

theorem parametersOf_eq_ok {tool : String} {count : ℕ} {answer : Except Fault Value}
    {params : List String} (h : parametersOf tool count answer = .ok params) :
    ∃ raw d, answer = .ok raw ∧ Definition.ofValue (some tool) raw = .ok d ∧
      d.parameters = params ∧ params.length = count := by
  cases answer with
  | error f => cases h
  | ok raw =>
    rw [parametersOf] at h
    cases htruthy : raw.truthy with
    | false =>
      rw [htruthy] at h
      cases h
    | true =>
      cases hd : Definition.ofValue (some tool) raw with
      | error fault =>
        simp only [htruthy, hd, Bool.not_true, Bool.false_eq_true, if_false] at h
        cases h
      | ok d =>
        by_cases hcount : d.parameters.length = count
        · simp only [htruthy, hd, Bool.not_true, Bool.false_eq_true, if_false, if_pos hcount] at h
          cases h
          exact ⟨raw, d, rfl, hd, rfl, hcount⟩
        · simp only [htruthy, hd, Bool.not_true, Bool.false_eq_true, if_false, if_neg hcount] at h
          cases h

theorem getElem?_withFirstLeaf (i : ℕ) (ts : List Tree) (k : ℕ) :
    (withFirstLeaf i ts)[k]? =
      ts[k]?.map fun t ↦ (i + (Node.leavesAll (ts.take k)).length, t) := by
  induction ts generalizing i k with
  | nil => rfl
  | cons t ts ih =>
    cases k with
    | zero => rfl
    | succ k =>
      rw [withFirstLeaf, List.getElem?_cons_succ, List.getElem?_cons_succ, ih, List.take_succ_cons,
        Node.leavesAll_cons, List.length_append, Nat.add_assoc]

/-- The call that a call of a program makes once its arguments have their values. -/
theorem madeBy_of_strands {c : Context} {i : ℕ} {tool : String} {args : List Tree}
    {answer : Except Fault Value} {params : List String} {strands : List Strand} {rs : List Demand}
    {vs : List Value} (hparams : parametersOf (toolName tool) args.length answer = .ok params)
    (hstrands : Strands c i args strands rs)
    (hvs : strands.map Strand.progress = vs.map fun v ↦ some (.ok v)) :
    ∃ raw d, Call.MadeBy ⟨toolName tool, params.zip vs⟩
      (.define (toolName tool) (some answer) :: rs) c i tool args raw d := by
  obtain ⟨raw, d, rfl, hd, rfl, hcount⟩ := parametersOf_eq_ok hparams
  have hlen : strands.length = args.length := by
    have hlength := congrArg (List.length ∘ List.map Prod.snd) hstrands.trees
    simpa [map_snd_withFirstLeaf] using hlength
  have hlen' : vs.length = args.length := by
    have hlength := congrArg List.length hvs
    rw [List.length_map, List.length_map] at hlength
    rw [← hlength, hlen]
  have hkeys : (d.parameters.zip vs).map Prod.fst = d.parameters :=
    List.map_fst_zip (by rw [hcount, hlen'])
  refine ⟨raw, d, rfl, List.mem_cons_self, hd, hkeys, fun props hprops hnodup ↦ ?_, ?_,
    fun k h h' ↦ ?_⟩
  · rw [hkeys]
    exact Definition.nodup_parameters hd hprops hnodup
  · rw [List.length_zip, hcount, hlen', Nat.min_self]
  · -- the strand of the argument
    have hk : k < strands.length := hlen ▸ h
    have htree : (strands[k].first, strands[k].tree) =
        (i + (Node.leavesAll (args.take k)).length, args[k]) := by
      have hget := congrArg (·[k]?) hstrands.trees
      simp only [List.getElem?_map, getElem?_withFirstLeaf, List.getElem?_eq_getElem hk,
        List.getElem?_eq_getElem h, Option.map_some, Option.some.injEq] at hget
      exact hget
    have hvalue : strands[k].progress = some (.ok vs[k]) := by
      have hget := congrArg (·[k]?) hvs
      simp only [List.getElem?_map, List.getElem?_eq_getElem hk,
        List.getElem?_eq_getElem (hlen' ▸ h : k < vs.length), Option.map_some,
        Option.some.injEq] at hget
      exact hget
    have hrun := hstrands.runs strands[k] (List.getElem_mem hk)
    obtain ⟨hfirst, htree⟩ := Prod.mk.injEq .. ▸ htree
    rw [hfirst, htree, hvalue] at hrun
    refine ⟨strands[k].demands, ?_, ?_⟩
    · exact (hstrands.shuffle.sublist (List.mem_map_of_mem (List.getElem_mem hk))).cons _
    · rw [List.getElem_zip]
      exact hrun

theorem append_eq_append_cons {α : Type} {xs ys before after : List α} {x : α}
    (h : xs ++ ys = before ++ x :: after) :
    (∃ after', xs = before ++ x :: after') ∨
      ∃ before', before = xs ++ before' ∧ ys = before' ++ x :: after := by
  rcases List.append_eq_append_iff.mp h with ⟨zs, rfl, rfl⟩ | ⟨zs, rfl, hzs⟩
  · exact Or.inr ⟨zs, rfl, rfl⟩
  · cases zs with
    | nil => exact Or.inr ⟨[], by simp, hzs.symm⟩
    | cons z zs =>
      obtain ⟨rfl, -⟩ := List.cons.inj hzs
      exact Or.inl ⟨zs, rfl⟩

/-- A demand of siblings is one of a sibling, which made it after some of the demands before. -/
theorem madeWithin_of_strands {c : Context} {i : ℕ} {ts : List Tree} {strands : List Strand}
    {before after : List Demand} {call : Call} {answer : Option (Except Fault Value)}
    (hstrands : Strands c i ts strands (before ++ .invoke call answer :: after))
    (ih : ∀ s ∈ strands, ∀ {before' after'}, s.demands = before' ++ .invoke call answer :: after' →
      call.MadeWithin before' (.eval c s.first s.tree)) :
    ∃ j t before', (j, t) ∈ withFirstLeaf i ts ∧ before'.Sublist before ∧
      call.MadeWithin before' (.eval c j t) := by
  obtain ⟨rs, hrs, before', after', hsplit, hsub⟩ := hstrands.shuffle.split
  obtain ⟨s, hs, rfl⟩ := List.mem_map.mp hrs
  refine ⟨s.first, s.tree, before', ?_, hsub, ih s hs hsplit⟩
  rw [← hstrands.trees]
  exact List.mem_map_of_mem (f := fun s : Strand ↦ (s.first, s.tree)) hs

theorem exists_cons_of_define {tool : String} {answer answer' : Option (Except Fault Value)}
    {rs before after : List Demand} {call : Call}
    (h : .define tool answer :: rs = before ++ .invoke call answer' :: after) :
    ∃ before', before = .define tool answer :: before' ∧
      rs = before' ++ .invoke call answer' :: after := by
  cases before with
  | nil => cases h
  | cons d before =>
    obtain ⟨rfl, hrs⟩ := List.cons.inj h
    exact ⟨before, rfl, hrs⟩

/-- A call makes a tool call only when its arguments have their values, and only one. -/
theorem Concludes.of_invoke {tool : String} {params : List String}
    {together : Option (Except EvalFault (List Value))} {before after : List Demand} {r : Progress}
    {call : Call} {answer : Option (Except Fault Value)}
    (h : Concludes tool params together (before ++ .invoke call answer :: after) r) :
    before = [] ∧ ∃ vs, together = some (.ok vs) ∧ call = ⟨tool, params.zip vs⟩ := by
  generalize hrs : before ++ .invoke call answer :: after = rs at h
  cases h with
  | waiting => exact absurd hrs (by simp)
  | fault => exact absurd hrs (by simp)
  | _ =>
    obtain ⟨rfl, hrs⟩ := List.append_eq_singleton_iff.mp hrs |>.resolve_right (by simp)
    obtain ⟨hd, -⟩ := List.cons.inj hrs
    cases hd
    exact ⟨rfl, _, rfl, rfl⟩

/-- Every tool call of a run was made in the course of it. -/
theorem Job.Runs.madeWithin {job : Job} {rs : List Demand} {r : Progress} (h : job.Runs rs r)
    {before after : List Demand} {call : Call} {answer : Option (Except Fault Value)}
    (hrs : rs = before ++ .invoke call answer :: after) : call.MadeWithin before job := by
  induction h generalizing before after with
  | idle => exact absurd hrs (by simp)
  | value => exact absurd hrs (by simp)
  | lambda => exact absurd hrs (by simp)
  | bare => exact absurd hrs (by simp)
  | unanswered =>
    obtain ⟨before', -, hnil⟩ := exists_cons_of_define hrs
    exact absurd hnil (by simp)
  | refused hparams =>
    obtain ⟨before', -, hnil⟩ := exists_cons_of_define hrs
    exact absurd hnil (by simp)
  | call hparams htrees hstrands hshuffle htogether hend ih =>
    -- the first demand is no tool call
    obtain ⟨before, rfl, hrest⟩ := exists_cons_of_define hrs
    rcases append_eq_append_cons hrest with ⟨after', rfl⟩ | ⟨before', rfl, hsecond⟩
    · obtain ⟨j, t, before', hmem, hsub, hmade⟩ :=
        madeWithin_of_strands ⟨htrees, hstrands, hshuffle⟩ ih
      exact hmade.of_part (hsub.cons _) (.arg hmem)
    · -- its own call, with all arguments there
      subst hsecond
      obtain ⟨rfl, vs, rfl, rfl⟩ := hend.of_invoke
      cases htogether with
      | values hvs =>
        obtain ⟨raw, d, hmade⟩ := madeBy_of_strands hparams ⟨htrees, hstrands, hshuffle⟩ hvs
        rw [List.append_nil]
        exact ⟨_, _, _, _, raw, d, .refl, hmade⟩
  | program htrees hstrands hshuffle htogether ih =>
    subst hrs
    obtain ⟨j, t, before', hmem, hsub, hmade⟩ :=
      madeWithin_of_strands ⟨htrees, hstrands, hshuffle⟩ ih
    exact hmade.of_part hsub (.member hmem)
  | undecided htest hr ih => exact (ih hrs).of_part (.refl _) .test
  | yes htest hv hyes iht ihy =>
    rcases append_eq_append_cons hrs with ⟨after', hfirst⟩ | ⟨before', rfl, hsecond⟩
    · exact (iht hfirst).of_part (.refl _) .test
    · exact (ihy hsecond).of_part (List.sublist_append_right _ _)
        (.yes htest (List.sublist_append_left _ _) hv)
  | no htest hv hno iht ihn =>
    rcases append_eq_append_cons hrs with ⟨after', hfirst⟩ | ⟨before', rfl, hsecond⟩
    · exact (iht hfirst).of_part (.refl _) .test
    · exact (ihn hsecond).of_part (List.sublist_append_right _ _)
        (.no htest (List.sublist_append_left _ _) hv)
  | noBranch htest hv ih => exact (ih hrs).of_part (.refl _) .test
  | noItems hitems hr ih => exact (ih hrs).of_part (.refl _) .items
  | notList hitems hv ih => exact (ih hrs).of_part (.refl _) .items
  | unready hitems hrounds ih => exact (ih hrs).of_part (.refl _) .items
  | «over» hitems hrounds hloop ihi ihl =>
    rcases append_eq_append_cons hrs with ⟨after', hfirst⟩ | ⟨before', rfl, hsecond⟩
    · exact (ihi hfirst).of_part (.refl _) .items
    · exact (ihl hsecond).of_part (List.sublist_append_right _ _)
        (.loop hitems (List.sublist_append_left _ _) hrounds)
  | finished => exact absurd hrs (by simp)
  | unbound hbind => exact absurd hrs (by simp)
  | lastRound hbind hbody hr ih => exact (ih hrs).of_part (.refl _) (.round hbind)
  | round hbind hbody hrest ihb ihr =>
    rcases append_eq_append_cons hrs with ⟨after', hfirst⟩ | ⟨before', rfl, hsecond⟩
    · exact (ihb hfirst).of_part (.refl _) (.round hbind)
    · exact (ihr hsecond).of_part (List.sublist_append_right _ _)
        (.next hbind hbody (List.sublist_append_left _ _))

/-! ## The number of arguments -/

/-- A call with another number of arguments than its tool has properties asks for the definition of
the tool and does nothing else. -/
theorem Job.Runs.of_arity {c : Context} {i : ℕ} {tool : String} {args : List Tree}
    {rs : List Demand} {r : Progress} {raw : Value} {d : Definition}
    (h : (Job.eval c i (.call tool args)).Runs rs r)
    (hraw : rs.head? = some (.define (toolName tool) (some (.ok raw))))
    (hd : Definition.ofValue (some (toolName tool)) raw = .ok d)
    (hcount : d.parameters.length ≠ args.length) :
    rs = [.define (toolName tool) (some (.ok raw))] ∧
      r = some (.error (.arity (toolName tool) d.parameters.length args.length)) := by
  have hparams : parametersOf (toolName tool) args.length (.ok raw) =
      .error (.arity (toolName tool) d.parameters.length args.length) := by
    simp only [parametersOf, Definition.truthy_of_ofValue hd, hd, Bool.not_true,
      Bool.false_eq_true, if_false, if_neg hcount]
  cases h with
  | idle => cases hraw
  | unanswered => cases hraw
  | refused he =>
    cases hraw
    rw [hparams] at he
    obtain rfl := Except.error.inj he
    exact ⟨rfl, rfl⟩
  | call hok =>
    cases hraw
    rw [hparams] at hok
    cases hok

/-- **Tool calls are well formed.** Every tool call in a run, however siblings are interleaved and
whatever has failed, was made by the evaluation of a call of the program in the course of the run:
it has that call's tool, the names of its arguments are the properties in the definition that was
answered before, and their values are what the nodes came to before, in the context of that
evaluation.

The evaluation of a call with another number of arguments than its tool has properties makes no tool
call, and nothing below it is evaluated either. The evaluator's outcome, with any provider, is that
of such a run, and in a context that binds names only this is the outcome of `eval`. -/
theorem calls_wellFormed (c : Context) (t : Tree) :
    (∀ rs r, (Job.eval c 0 t).Runs rs r → ∀ before call answer after,
      rs = before ++ .invoke call answer :: after → ∃ c' i tool args raw d,
        .call tool args ∈ t.nodes ∧
        Job.Within before (.eval c' i (.call tool args)) (.eval c 0 t) ∧
        call.MadeBy before c' i tool args raw d) ∧
    (∀ c' i tool args rs r raw d, (Job.eval c' i (.call tool args)).Runs rs r →
      rs.head? = some (.define (toolName tool) (some (.ok raw))) →
      Definition.ofValue (some (toolName tool)) raw = .ok d →
      d.parameters.length ≠ args.length →
      rs = [.define (toolName tool) (some (.ok raw))] ∧
        r = some (.error (.arity (toolName tool) d.parameters.length args.length))) ∧
    ∀ {σ : Type} (p : Provider σ) (s : σ),
      (∃ rs, (Job.eval c 0 t).Runs rs (some (evalIn p c 0 t s).result) ∧
        p.Serves s rs (evalIn p c 0 t s).state ∧ toolCalls rs = (evalIn p c 0 t s).trace) ∧
      ((∀ i, c.leaves i = none) → evalIn p c 0 t = eval p c.names t) := by
  refine ⟨fun rs r h before call answer after hrs ↦ ?_,
    fun c' i tool args rs r raw d h hraw hd hcount ↦ h.of_arity hraw hd hcount,
    fun p s ↦ ⟨?_, fun hc ↦ evalIn_eq_eval t hc 0⟩⟩
  · obtain ⟨c', i, tool, args, raw, d, hwithin, hmade⟩ := h.madeWithin hrs
    exact ⟨c', i, tool, args, raw, d, hwithin.mem_nodes, hwithin, hmade⟩
  · obtain ⟨rs, hrun, hleaves⟩ := evalIn_performs p t c 0 s
    exact ⟨rs, hrun, hleaves.serves, hleaves.calls⟩

/-- A toolbox with a tool that adds two numbers and one that gives back what it is given. -/
def addOrSame : Toolbox where
  tools := [⟨"add", SmallTool.metadataOf "add" [("a", none), ("b", none)], .sum⟩,
    ⟨"same", SmallTool.metadataOf "same" [("a", none)], .first⟩]

/-- A sum that lacks an argument, and beside it one that does not. -/
def lackingBesideSum : Tree :=
  .program ⟨.parallel, none, none⟩ [.call "add" [.value "a" (.int 7)],
    .call "add" [.call "functions.same" [.value "a" (.int 4)], .value "b" (.int 1)]]

/-- What the sum that lacks nothing demands. -/
def sumDemands : List Demand := [
  .define "add" (some (.ok (SmallTool.metadataOf "add" [("a", none), ("b", none)]))),
  .define "same" (some (.ok (SmallTool.metadataOf "same" [("a", none)]))),
  .invoke ⟨"same", [("a", .int 4)]⟩ (some (.ok (.int 4))),
  .invoke ⟨"add", [("a", .int 4), ("b", .int 1)]⟩ (some (.ok (.int 5)))]

/-- What the two sums demand together: the one that lacks an argument fails first. -/
def demandsAfterFailure : List Demand :=
  .define "add" (some (.ok (SmallTool.metadataOf "add" [("a", none), ("b", none)]))) :: sumDemands

theorem Strands.runs_call {c : Context} {i : ℕ} {args : List Tree} {strands : List Strand}
    {rs : List Demand} (h : Strands c i args strands rs) (tool : String) (raw : Value)
    (params : List String) (vs : List Value) (answer : Value)
    (hparams : parametersOf (toolName tool) args.length (.ok raw) = .ok params)
    (hvs : strands.map Strand.progress = vs.map fun v ↦ some (.ok v)) :
    (Job.eval c i (.call tool args)).Runs (.define (toolName tool) (some (.ok raw)) ::
      (rs ++ [.invoke ⟨toolName tool, params.zip vs⟩ (some (.ok answer))])) (some (.ok answer)) :=
  .call hparams h.trees h.runs h.shuffle (.values hvs) .answered

theorem runs_sum : (Job.eval {} 1 (.call "add" [.call "functions.same" [.value "a" (.int 4)],
    .value "b" (.int 1)])).Runs sumDemands (some (.ok (.int 5))) := by
  have hmark : toolName "functions.same" = "same" := by cbv
  have hadd : toolName "add" = "add" := by cbv
  have hnil (i : ℕ) : Strands {} i [] [] [] := ⟨rfl, List.forall_mem_nil _, .nil⟩
  have ha : Strands {} 1 [.value "a" (.int 4)] [⟨1, .value "a" (.int 4), [], some (.ok (.int 4))⟩]
      [] := (hnil 2).cons .value
  have hsame := ha.runs_call "functions.same" (SmallTool.metadataOf "same" [("a", none)]) ["a"]
    [.int 4] (.int 4) (by cbv) rfl
  have hb : Strands {} 2 [.value "b" (.int 1)] [⟨2, .value "b" (.int 1), [], some (.ok (.int 1))⟩]
      [] := (hnil 3).cons .value
  have hsum := (hb.cons hsame).runs_call "add"
    (SmallTool.metadataOf "add" [("a", none), ("b", none)]) ["a", "b"] [.int 4, .int 1] (.int 5)
    (by cbv) rfl
  rw [hmark, hadd] at hsum
  exact hsum

theorem runs_lackingBesideSum : (Job.eval {} 0 lackingBesideSum).Runs demandsAfterFailure
    (some (.error (.arity "add" 2 1))) := by
  have hadd : toolName "add" = "add" := by cbv
  have hlacking : (Job.eval {} 0 (.call "add" [.value "a" (.int 7)])).Runs
      [.define (toolName "add")
        (some (.ok (SmallTool.metadataOf "add" [("a", none), ("b", none)])))]
      (some (.error (.arity "add" 2 1))) := .refused (by cbv)
  rw [hadd] at hlacking
  have hnil : Strands {} 3 [] [] [] := ⟨rfl, List.forall_mem_nil _, .nil⟩
  have hboth := (hnil.cons runs_sum).cons hlacking
  exact .program hboth.trees hboth.runs hboth.shuffle (.fault List.mem_cons_self)

/-- The sum that lacks nothing makes its calls after the other one has failed, and both are well
formed. The evaluator stops at the failure. -/
theorem calls_wellFormed_lackingBesideSum :
    (Job.eval {} 0 lackingBesideSum).Runs demandsAfterFailure
      (some (.error (.arity "add" 2 1))) ∧
    toolCalls demandsAfterFailure = [⟨"same", [("a", .int 4)]⟩,
      ⟨"add", [("a", .int 4), ("b", .int 1)]⟩] ∧
    (∃ c' i tool args raw d, .call tool args ∈ lackingBesideSum.nodes ∧
      Job.Within (demandsAfterFailure.take 4) (.eval c' i (.call tool args))
        (.eval {} 0 lackingBesideSum) ∧
      Call.MadeBy ⟨"add", [("a", .int 4), ("b", .int 1)]⟩ (demandsAfterFailure.take 4) c' i tool
        args raw d) ∧
    (eval addOrSame.provider [] lackingBesideSum none).trace = [] :=
  ⟨runs_lackingBesideSum, rfl,
    (calls_wellFormed {} lackingBesideSum).1 _ _ runs_lackingBesideSum
      (demandsAfterFailure.take 4) _ (some (.ok (.int 5))) [] rfl, by cbv⟩

end CallTree
