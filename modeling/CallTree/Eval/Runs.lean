import CallTree.Eval.Context

/-!
# Runs with siblings together

The arguments of a call, and the nodes of a program, are started together and waited for together.
While one of them waits for the provider the others go on, so what they ask of it comes in any order
that keeps the order within each of them. If one fails, the call or the program fails with it at
once, but the others are not stopped: they go on and may still call tools. All else is done one
thing after another: a branch after its test, a tool after its arguments, one invocation of a lambda
after the other.

`Job.Runs` says what may be seen of a job at any time: the demands it has made on the provider so
far, those of the strands that were left to themselves among them, and what it has come to. The
answers of the provider are not restricted in any way. The evaluator, which takes siblings from left
to right and stops at the first failure, makes one of these runs.
-/

namespace CallTree

/-! ## Demands on a provider -/

/-- What is asked of a provider, with the answer if it has come. -/
inductive Demand where
  /-- The definition of a tool is asked for. -/
  | define (tool : String) (answer : Option (Except Fault Value))
  | invoke (call : Call) (answer : Option (Except Fault Value))

/-- The tool calls among demands. -/
def toolCalls (rs : List Demand) : List Call :=
  rs.filterMap fun
    | .invoke call _ => some call
    | .define _ _ => none

/-- The parameters of a tool that is to be called with the given number of arguments, by the answer
to the question for its definition. -/
def parametersOf (tool : String) (count : Nat) :
    Except Fault Value → Except EvalFault (List String)
  | .error f => .error (.raised f)
  | .ok raw =>
    if !raw.truthy then .error (.unavailable tool)
    else match Definition.ofValue (some tool) raw with
      | .error d => .error (.definition d)
      | .ok d =>
        if d.parameters.length = count then .ok d.parameters
        else .error (.arity tool d.parameters.length count)

/-! ## Lists put together -/

/-- The third list is made of the other two, each in its order. -/
inductive Shuffle {α : Type} : List α → List α → List α → Prop where
  | nil : Shuffle [] [] []
  | left {a : α} {as bs cs : List α} (h : Shuffle as bs cs) : Shuffle (a :: as) bs (a :: cs)
  | right {b : α} {as bs cs : List α} (h : Shuffle as bs cs) : Shuffle as (b :: bs) (b :: cs)

/-- The second list is made of the lists in the first, each in its order. -/
inductive Shuffles {α : Type} : List (List α) → List α → Prop where
  | nil : Shuffles [] []
  | cons {as bs cs : List α} {ass : List (List α)} (h : Shuffles ass bs) (hs : Shuffle as bs cs) :
      Shuffles (as :: ass) cs

/-! ## Siblings -/

/-- What an evaluation has come to: nothing so far, a value or a fault. -/
abbrev Progress := Option (Except EvalFault Value)

/-- Trees with the numbers of their first leaves, if the first leaf of all has the number `i`. -/
def withFirstLeaf (i : Nat) : List Tree → List (Nat × Tree)
  | [] => []
  | t :: ts => (i, t) :: withFirstLeaf (i + t.leaves.length) ts

/-- One of several siblings: a tree, the number of its first leaf, what it has asked of the provider
and what it has come to. -/
structure Strand where
  first : Nat
  tree : Tree
  demands : List Demand
  progress : Progress

/-- What siblings can have come to together: all their values, or the fault of one of them. It may
also be that this is still waited for. -/
inductive Together (ps : List Progress) : Option (Except EvalFault (List Value)) → Prop where
  | waiting : Together ps none
  | values {vs : List Value} (h : ps = vs.map fun v ↦ some (.ok v)) : Together ps (some (.ok vs))
  | fault {e : EvalFault} (h : some (.error e) ∈ ps) : Together ps (some (.error e))

/-- What a call does after its arguments: with all values there, the tool is called. -/
inductive Concludes (tool : String) (params : List String) :
    Option (Except EvalFault (List Value)) → List Demand → Progress → Prop where
  | waiting : Concludes tool params none [] none
  | fault {e : EvalFault} : Concludes tool params (some (.error e)) [] (some (.error e))
  | unanswered {vs : List Value} :
      Concludes tool params (some (.ok vs)) [.invoke ⟨tool, params.zip vs⟩ none] none
  | answered {vs : List Value} {answer : Except Fault Value} :
      Concludes tool params (some (.ok vs)) [.invoke ⟨tool, params.zip vs⟩ (some answer)]
        (some (answer.mapError .raised))

/-! ## List operations -/

/-- How a list operation goes through a list: the bindings that its lambda is run in for an item,
given what the items before have led to, and what they lead to with that item and its result. -/
structure Rounds where
  bind : Value → Value → Option Bindings
  next : Value → Value → Value → Value

/-- A list with one more item. -/
def appended : Value → Value → Value
  | .list ys, y => .list (ys ++ [y])
  | v, _ => v

namespace Rounds

/-- Each item is bound to the parameter, and the results are collected. -/
def map (names : Bindings) (param : String) : Rounds where
  bind _ x := some (names.extend [(param, x)])
  next acc _ y := appended acc y

/-- Each item is bound to the parameter, and the items whose results count as true are collected. -/
def filter (names : Bindings) (param : String) : Rounds where
  bind _ x := some (names.extend [(param, x)])
  next acc x y := if y.truthy then appended acc x else acc

/-- The last result and the item are bound to the two parameters. -/
def reduce (names : Bindings) (params : List String) : Rounds where
  bind acc x :=
    match params with
    | [p, q] => some (names.extend [(p, acc), (q, x)])
    | _ => none
  next _ _ y := y

end Rounds

/-- How a list operation goes through its items, from what it starts and over which of them. -/
def ListOp.rounds (op : ListOp) (start? : String → Option Value) (names : Bindings)
    (params : List String) (items : List Value) : Except EvalFault (Rounds × Value × List Value) :=
  match op with
  | .map =>
    match params with
    | [] => .error .noParameter
    | p :: _ => .ok (.map names p, .list [], items)
  | .filter =>
    match params with
    | [] => .error .noParameter
    | p :: _ => .ok (.filter names p, .list [], items)
  | .reduce =>
    match items with
    | [] => .ok (.reduce names params, .null, [])
    | first :: rest =>
      match params with
      | [] => .error .noParameter
      | accumulator :: _ =>
        match start? accumulator with
        | none => .error .noPlaceholder
        | some start =>
          if start.isNull then .ok (.reduce names params, first, rest)
          else .ok (.reduce names params, start, first :: rest)

/-! ## Jobs -/

/-- What is to be done: a tree is evaluated in a context, where its first leaf has the number `i`,
or the rounds of a list operation are gone through whose lambda calls `tool`. -/
inductive Job where
  | eval (c : Context) (i : Nat) (t : Tree)
  | loop (rounds : Rounds) (c : Context) (i : Nat) (tool : String) (args : List Tree) (acc : Value)
      (items : List Value)

/-- What may be seen of a job: the demands that were made for it so far, and what it has come to. -/
inductive Job.Runs : Job → List Demand → Progress → Prop where
  /-- Nothing was done yet. -/
  | idle {job : Job} : job.Runs [] none
  | value {c : Context} {i : Nat} {name : String} {literal : Value} :
      (Job.eval c i (.value name literal)).Runs [] (some (.ok (c.valueFor i name literal)))
  | lambda {c : Context} {i : Nat} {params : List String} {tool : String} {args : List Tree} :
      (Job.eval c i (.lambda params tool args)).Runs []
        (some (.ok (.closure params tool args c.names)))
  | bare {c : Context} {i : Nat} : (Job.eval c i .bare).Runs [] (some (.error .unsupported))
  -- a call asks for the definition of its tool, and nothing else if the answer does not fit
  | unanswered {c : Context} {i : Nat} {tool : String} {args : List Tree} :
      (Job.eval c i (.call tool args)).Runs [.define (toolName tool) none] none
  | refused {c : Context} {i : Nat} {tool : String} {args : List Tree}
      {answer : Except Fault Value} {e : EvalFault}
      (hparams : parametersOf (toolName tool) args.length answer = .error e) :
      (Job.eval c i (.call tool args)).Runs [.define (toolName tool) (some answer)]
        (some (.error e))
  | call {c : Context} {i : Nat} {tool : String} {args : List Tree}
      {answer : Except Fault Value} {params : List String} {strands : List Strand}
      {rs rs' : List Demand} {together : Option (Except EvalFault (List Value))} {r : Progress}
      (hparams : parametersOf (toolName tool) args.length answer = .ok params)
      (htrees : strands.map (fun s ↦ (s.first, s.tree)) = withFirstLeaf i args)
      (hstrands : ∀ s ∈ strands, (Job.eval c s.first s.tree).Runs s.demands s.progress)
      (hshuffle : Shuffles (strands.map Strand.demands) rs)
      (hgather : Together (strands.map Strand.progress) together)
      (hend : Concludes (toolName tool) params together rs' r) :
      (Job.eval c i (.call tool args)).Runs
        (.define (toolName tool) (some answer) :: (rs ++ rs')) r
  | program {c : Context} {i : Nat} {heading : Heading} {body : List Tree} {strands : List Strand}
      {rs : List Demand} {together : Option (Except EvalFault (List Value))}
      (htrees : strands.map (fun s ↦ (s.first, s.tree)) = withFirstLeaf i body)
      (hstrands : ∀ s ∈ strands, (Job.eval c s.first s.tree).Runs s.demands s.progress)
      (hshuffle : Shuffles (strands.map Strand.demands) rs)
      (hgather : Together (strands.map Strand.progress) together) :
      (Job.eval c i (.program heading body)).Runs rs
        (together.map (Except.map programResult))
  -- a choice waits for its test
  | undecided {c : Context} {i : Nat} {test yes : Tree} {no : Option Tree} {rs : List Demand}
      {r : Progress} (htest : (Job.eval c i test).Runs rs r) (hr : ∀ v, r ≠ some (.ok v)) :
      (Job.eval c i (.cond test yes no)).Runs rs r
  | yes {c : Context} {i : Nat} {test yes : Tree} {no : Option Tree} {rs rs' : List Demand}
      {v : Value} {r : Progress} (htest : (Job.eval c i test).Runs rs (some (.ok v)))
      (hv : v.truthy = true) (hyes : (Job.eval c (i + test.leaves.length) yes).Runs rs' r) :
      (Job.eval c i (.cond test yes no)).Runs (rs ++ rs') r
  | no {c : Context} {i : Nat} {test yes no : Tree} {rs rs' : List Demand} {v : Value}
      {r : Progress} (htest : (Job.eval c i test).Runs rs (some (.ok v))) (hv : v.truthy = false)
      (hno : (Job.eval c (i + test.leaves.length + yes.leaves.length) no).Runs rs' r) :
      (Job.eval c i (.cond test yes (some no))).Runs (rs ++ rs') r
  | noBranch {c : Context} {i : Nat} {test yes : Tree} {rs : List Demand} {v : Value}
      (htest : (Job.eval c i test).Runs rs (some (.ok v))) (hv : v.truthy = false) :
      (Job.eval c i (.cond test yes none)).Runs rs (some (.ok .null))
  -- a list operation waits for its items
  | noItems {c : Context} {i : Nat} {op : ListOp} {params : List String} {tool : String}
      {args : List Tree} {items : Tree} {rs : List Demand} {r : Progress}
      (hitems : (Job.eval c (i + (Node.leavesAll args).length) items).Runs rs r)
      (hr : ∀ v, r ≠ some (.ok v)) :
      (Job.eval c i (.over op params tool args items)).Runs rs r
  | notList {c : Context} {i : Nat} {op : ListOp} {params : List String} {tool : String}
      {args : List Tree} {items : Tree} {rs : List Demand} {v : Value}
      (hitems : (Job.eval c (i + (Node.leavesAll args).length) items).Runs rs (some (.ok v)))
      (hv : ∀ xs, v ≠ .list xs) :
      (Job.eval c i (.over op params tool args items)).Runs rs (some (.error (.notList op)))
  | unready {c : Context} {i : Nat} {op : ListOp} {params : List String} {tool : String}
      {args : List Tree} {items : Tree} {rs : List Demand} {xs : List Value} {e : EvalFault}
      (hitems : (Job.eval c (i + (Node.leavesAll args).length) items).Runs rs
        (some (.ok (.list xs))))
      (hrounds : op.rounds (fun name ↦ c.placeholder? name i (Node.nodesAll args)) c.names params
        xs = .error e) :
      (Job.eval c i (.over op params tool args items)).Runs rs (some (.error e))
  | over {c : Context} {i : Nat} {op : ListOp} {params : List String} {tool : String}
      {args : List Tree} {items : Tree} {rs rs' : List Demand} {xs rest : List Value}
      {rounds : Rounds} {acc : Value} {r : Progress}
      (hitems : (Job.eval c (i + (Node.leavesAll args).length) items).Runs rs
        (some (.ok (.list xs))))
      (hrounds : op.rounds (fun name ↦ c.placeholder? name i (Node.nodesAll args)) c.names params
        xs = .ok (rounds, acc, rest))
      (hloop : (Job.loop rounds c i tool args acc rest).Runs rs' r) :
      (Job.eval c i (.over op params tool args items)).Runs (rs ++ rs') r
  -- one round after the other, until there are no more items or one has no value
  | finished {rounds : Rounds} {c : Context} {i : Nat} {tool : String} {args : List Tree}
      {acc : Value} : (Job.loop rounds c i tool args acc []).Runs [] (some (.ok acc))
  | unbound {rounds : Rounds} {c : Context} {i : Nat} {tool : String} {args : List Tree}
      {acc x : Value} {xs : List Value} (hbind : rounds.bind acc x = none) :
      (Job.loop rounds c i tool args acc (x :: xs)).Runs [] (some (.error .parameterCount))
  | lastRound {rounds : Rounds} {c : Context} {i : Nat} {tool : String} {args : List Tree}
      {acc x : Value} {xs : List Value} {names : Bindings} {rs : List Demand} {r : Progress}
      (hbind : rounds.bind acc x = some names)
      (hbody : (Job.eval { c with names } i (.call tool args)).Runs rs r)
      (hr : ∀ v, r ≠ some (.ok v)) :
      (Job.loop rounds c i tool args acc (x :: xs)).Runs rs r
  | round {rounds : Rounds} {c : Context} {i : Nat} {tool : String} {args : List Tree}
      {acc x y : Value} {xs : List Value} {names : Bindings} {rs rs' : List Demand} {r : Progress}
      (hbind : rounds.bind acc x = some names)
      (hbody : (Job.eval { c with names } i (.call tool args)).Runs rs (some (.ok y)))
      (hrest : (Job.loop rounds c i tool args (rounds.next acc x y) xs).Runs rs' r) :
      (Job.loop rounds c i tool args acc (x :: xs)).Runs (rs ++ rs') r

end CallTree
