import CallTree.Proofs.Rules

/-!
# List operations work item by item

A map, a filter and a reduce hand their items to a lambda one at a time, and every invocation may
leave the provider in another state. Nothing else ties the items together: what an operation does
with `xs ++ ys` is what it does with `xs` and then, from the state that is left, with `ys`.

The laws are equations between effects. One equation speaks of the result, of the failure, of the
state and of the calls, so a law for runs that fail is not needed beside one for runs that succeed.

## Where a reduce starts

Whether the start of a reduce is null is asked once, before the first item. Later accumulators are
never asked, which is why a reduce over `xs ++ ys` goes on over `ys` from whatever value the items
of `xs` have led to.

## Counting invocations

The calls in a trace do not tell how often a lambda was invoked: its arguments make calls of their
own. `counting` puts a counter beside the state of the provider instead, and `Counts` says both that
the counter ends at a number and that without it the run is the one that was to be counted.
-/

namespace CallTree

variable {σ ε τ α β ι : Type}

/-! ## Effects in a row -/

namespace Effect

theorem bind_eq_of_error {x : Effect σ ε τ α} {f : α → Effect σ ε τ β} {s s₁ : σ} {e : ε}
    {tr : List τ} (h : x s = ⟨.error e, s₁, tr⟩) : (x >>= f) s = ⟨.error e, s₁, tr⟩ := by
  rw [bind_of_error (e := e) (by rw [h]), h]

theorem each_eq_mapM (f : ι → Effect σ ε τ α) (xs : List ι) : each f xs = xs.mapM f := by
  have : LawfulMonad (Effect σ ε τ) := lawfulMonad
  induction xs with
  | nil => rw [List.mapM_nil]; rfl
  | cons x xs ih => rw [List.mapM_cons, ← ih]; rfl

theorem each_append (f : ι → Effect σ ε τ α) (xs ys : List ι) :
    each f (xs ++ ys) = do
      let as ← each f xs
      let bs ← each f ys
      return as ++ bs := by
  have : LawfulMonad (Effect σ ε τ) := lawfulMonad
  rw [each_eq_mapM, each_eq_mapM, each_eq_mapM, List.mapM_append]

end Effect

/-! ## Working through items in turn -/

/-- An operation on lists is put together from what it does with single items: an item `x` for which
`one` gives `y` contributes `give x y` to the result. -/
structure Splits (one : Value → Action σ Value) (give : Value → Value → List Value)
    (all : List Value → Action σ (List Value)) : Prop where
  nil : all [] = pure []
  single : ∀ x, all [x] = do return give x (← one x)
  append : ∀ xs ys, all (xs ++ ys) = do
    let as ← all xs
    let bs ← all ys
    return as ++ bs

/-- An operation on lists that is put together from what it does with single items, and that fails
exactly where the first item does: the items before it have been worked through, and those behind it
are not touched. -/
structure InTurn (one : Value → Action σ Value) (give : Value → Value → List Value)
    (all : List Value → Action σ (List Value)) : Prop extends Splits one give all where
  fails : ∀ {xs s e s' calls}, all xs s = ⟨.error e, s', calls⟩ ↔
    ∃ before x after as s₁ calls₁ calls₂, xs = before ++ x :: after ∧
      all before s = ⟨.ok as, s₁, calls₁⟩ ∧ one x s₁ = ⟨.error e, s', calls₂⟩ ∧
      calls = calls₁ ++ calls₂

namespace Splits

variable {one : Value → Action σ Value} {give : Value → Value → List Value}
  {all : List Value → Action σ (List Value)} {xs ys as bs : List Value} {x y : Value}
  {s s₁ s₂ : σ} {e : EvalFault} {calls calls₁ calls₂ : List Call}

theorem single_of_ok (h : Splits one give all) (hx : one x s = ⟨.ok y, s₁, calls⟩) :
    all [x] s = ⟨.ok (give x y), s₁, calls⟩ := by
  rw [h.single, Effect.bind_eq_of_ok hx]
  show (⟨.ok (give x y), s₁, calls ++ []⟩ : Outcome σ EvalFault Call _) = _
  rw [List.append_nil]

theorem single_of_error (h : Splits one give all) (hx : one x s = ⟨.error e, s₁, calls⟩) :
    all [x] s = ⟨.error e, s₁, calls⟩ := by
  rw [h.single, Effect.bind_eq_of_error hx]

theorem append_of_ok (h : Splits one give all) (hxs : all xs s = ⟨.ok as, s₁, calls₁⟩)
    (hys : all ys s₁ = ⟨.ok bs, s₂, calls₂⟩) :
    all (xs ++ ys) s = ⟨.ok (as ++ bs), s₂, calls₁ ++ calls₂⟩ := by
  rw [h.append, Effect.bind_eq_of_ok hxs, Effect.bind_eq_of_ok hys]
  show (⟨.ok (as ++ bs), s₂, calls₁ ++ (calls₂ ++ [])⟩ : Outcome σ EvalFault Call _) = _
  rw [List.append_nil]

theorem append_of_error (h : Splits one give all) (hxs : all xs s = ⟨.ok as, s₁, calls₁⟩)
    (hys : all ys s₁ = ⟨.error e, s₂, calls₂⟩) :
    all (xs ++ ys) s = ⟨.error e, s₂, calls₁ ++ calls₂⟩ := by
  rw [h.append, Effect.bind_eq_of_ok hxs, Effect.bind_eq_of_error hys]

theorem append_of_error_left (h : Splits one give all)
    (hxs : all xs s = ⟨.error e, s₁, calls⟩) : all (xs ++ ys) s = ⟨.error e, s₁, calls⟩ := by
  rw [h.append, Effect.bind_eq_of_error hxs]

/-- If the operation fails, some item fails after those before it have been worked through. -/
theorem exists_failing (h : Splits one give all) (hfail : all xs s = ⟨.error e, s₂, calls⟩) :
    ∃ before x after as s₁ calls₁ calls₂, xs = before ++ x :: after ∧
      all before s = ⟨.ok as, s₁, calls₁⟩ ∧ one x s₁ = ⟨.error e, s₂, calls₂⟩ ∧
      calls = calls₁ ++ calls₂ := by
  induction xs generalizing s calls with
  | nil =>
    rw [h.nil] at hfail
    cases hfail
  | cons x xs ih =>
    rw [← List.singleton_append] at hfail
    rcases hx : one x s with ⟨e₁ | y, s₁, calls₁⟩
    · rw [h.append_of_error_left (h.single_of_error hx)] at hfail
      cases hfail
      exact ⟨[], x, xs, [], s, [], calls, rfl, by rw [h.nil]; rfl, hx, rfl⟩
    · have hfirst := h.single_of_ok hx
      rcases hxs : all xs s₁ with ⟨e₂ | bs, s₃, calls₂⟩
      · rw [h.append_of_error hfirst hxs] at hfail
        cases hfail
        obtain ⟨before, z, after, as, s₄, calls₃, calls₄, rfl, hbefore, hz, rfl⟩ := ih hxs
        exact ⟨x :: before, z, after, _, s₄, calls₁ ++ calls₃, calls₄, rfl,
          h.append_of_ok hfirst hbefore, hz, (List.append_assoc _ _ _).symm⟩
      · rw [h.append_of_ok hfirst hxs] at hfail
        cases hfail

theorem inTurn (h : Splits one give all) : InTurn one give all := by
  refine ⟨h, fun {xs s e s' calls} ↦ ⟨h.exists_failing, ?_⟩⟩
  rintro ⟨before, x, after, as, s₁, calls₁, calls₂, rfl, hbefore, hx, rfl⟩
  rw [← List.singleton_append]
  exact h.append_of_error hbefore (h.append_of_error_left (h.single_of_error hx))

end Splits

/-! ## Maps and filters -/

/-- A map gives what its lambda gives. -/
theorem splits_each (one : Value → Action σ Value) :
    Splits one (fun _ y ↦ [y]) (Effect.each one) where
  nil := rfl
  single _ := rfl
  append := Effect.each_append one

/-- What a filter keeps of an item. -/
def kept (x y : Value) : List Value := if y.truthy then [x] else []

theorem keepItems_cons (one : Value → Action σ Value) (x : Value) (xs : List Value) :
    keepItems one (x :: xs) = do
      let y ← one x
      let ys ← keepItems one xs
      return kept x y ++ ys := by
  rw [keepItems]
  refine congrArg (one x >>= ·) (funext fun y ↦ ?_)
  refine congrArg (keepItems one xs >>= ·) (funext fun ys ↦ ?_)
  rw [kept]
  split <;> rfl

theorem splits_keepItems (one : Value → Action σ Value) :
    Splits one kept (keepItems one) where
  nil := rfl
  single x := by
    rw [keepItems_cons]
    refine congrArg (one x >>= ·) (funext fun y ↦ ?_)
    show (pure (kept x y ++ []) : Action σ (List Value)) = pure (kept x y)
    rw [List.append_nil]
  append xs ys := by
    have : LawfulMonad (Effect σ EvalFault Call) := Effect.lawfulMonad
    induction xs with
    | nil =>
      show keepItems one ys = pure [] >>= fun as ↦ keepItems one ys >>= fun bs ↦ pure (as ++ bs)
      simp only [pure_bind, List.nil_append, bind_pure]
    | cons x xs ih =>
      rw [List.cons_append, keepItems_cons, keepItems_cons, ih]
      simp only [bind_assoc, pure_bind, List.append_assoc]

theorem kept_sublist (x y : Value) : (kept x y).Sublist [x] := by
  rw [kept]
  split
  · exact List.Sublist.refl _
  · exact List.nil_sublist _

/-- What a filter gives are items in their order. -/
theorem sublist_of_keepItems {one : Value → Action σ Value} {xs zs : List Value} {s s' : σ}
    {calls : List Call} (h : keepItems one xs s = ⟨.ok zs, s', calls⟩) : zs.Sublist xs := by
  induction xs generalizing s zs calls with
  | nil =>
    cases h
    exact List.Sublist.refl _
  | cons x xs ih =>
    rw [keepItems_cons] at h
    obtain ⟨y, s₁, calls₁, calls₂, -, h⟩ := Effect.ok_of_bind_eq_ok h
    obtain ⟨ys, s₂, calls₃, calls₄, hys, h⟩ := Effect.ok_of_bind_eq_ok h
    cases h
    exact (kept_sublist x y).append (ih hys)

/-! ## Reduces -/

theorem foldItems_eq_foldlM (step : Value → Value → Action σ Value) (acc : Value)
    (xs : List Value) : foldItems step acc xs = xs.foldlM step acc := by
  induction xs generalizing acc with
  | nil => rfl
  | cons x xs ih =>
    rw [List.foldlM_cons, foldItems]
    exact congrArg (step acc x >>= ·) (funext ih)

theorem foldItems_append (step : Value → Value → Action σ Value) (acc : Value)
    (xs ys : List Value) :
    foldItems step acc (xs ++ ys) = (do
      let acc ← foldItems step acc xs
      ys.foldlM step acc) := by
  have : LawfulMonad (Effect σ EvalFault Call) := Effect.lawfulMonad
  rw [foldItems_eq_foldlM, foldItems_eq_foldlM, List.foldlM_append]

/-- An operation reduces lists by `step` from `start`, or from the first item if `start` is null.
Items that are put behind others are worked through one by one, from the value the others have led
to, whatever it is. -/
structure Reduces (step : Value → Value → Action σ Value) (start : Value)
    (all : List Value → Action σ Value) : Prop where
  nil : all [] = pure .null
  first : start = .null → ∀ x, all [x] = pure x
  init : start ≠ .null → ∀ x, all [x] = step start x
  append : ∀ xs ys, xs ≠ [] → all (xs ++ ys) = do
    let acc ← all xs
    ys.foldlM step acc

section

variable {names : Bindings} {a b : String} {leaves : List Tree} {body : Bindings → Action σ Value}
  {start : Value}

theorem reduceItems_cons (hstart : reduceStart? names [a, b] leaves = some start) (x : Value)
    (xs : List Value) : reduceItems (placeholder? names leaves) names [a, b] body (x :: xs) =
      let step := fun acc x ↦ body (names.extend [(a, acc), (b, x)])
      if start.isNull then foldItems step x xs else foldItems step start (x :: xs) := by
  rw [reduceStart?, List.head?_cons, Option.bind_some, Option.map_eq_some_iff] at hstart
  obtain ⟨literal, hleaf, rfl⟩ := hstart
  simp only [reduceItems, placeholder?, hleaf, Option.map_some]
  rfl

theorem reduces_reduceItems (hstart : reduceStart? names [a, b] leaves = some start) :
    Reduces (fun acc x ↦ body (names.extend [(a, acc), (b, x)])) start
      (reduceItems (placeholder? names leaves) names [a, b] body) where
  nil := rfl
  first hnull x := by
    rw [reduceItems_cons hstart, hnull]
    rfl
  init hstart' x := by
    have : LawfulMonad (Effect σ EvalFault Call) := Effect.lawfulMonad
    have hnull : ¬ start.isNull = true := mt isNull_iff.mp hstart'
    rw [reduceItems_cons hstart]
    simp only [hnull, if_false, foldItems_eq_foldlM, Bool.false_eq_true, List.foldlM_cons,
      List.foldlM_nil, bind_pure]
  append xs ys hxs := by
    obtain ⟨x, xs, rfl⟩ := List.exists_cons_of_ne_nil hxs
    rw [List.cons_append, reduceItems_cons hstart, reduceItems_cons hstart]
    dsimp only
    -- the start is looked at once, and both sides agree on it
    split
    · exact foldItems_append _ x xs ys
    · exact foldItems_append _ start (x :: xs) ys

end

/-! ## Counting invocations -/

/-- A lambda, given by what it does in bindings, that counts its invocations beside the state. -/
def counting (body : Bindings → Action σ Value) : Bindings → Action (σ × ℕ) Value := fun names s ↦
  ⟨(body names s.1).result, ((body names s.1).state, s.2 + 1), (body names s.1).trace⟩

/-- The second effect is the first one with a counter beside the state. The counter has gone up by
`n` if the effect gives a value, and by no more than `n` if it fails on the way. -/
def Counts (x : Action σ α) (c : Action (σ × ℕ) α) (n : ℕ) : Prop :=
  ∀ s k, ∃ m, c (s, k) = ⟨(x s).result, ((x s).state, k + m), (x s).trace⟩ ∧ m ≤ n ∧
    ∀ v, (x s).result = .ok v → m = n

theorem counts_done (v : α) : Counts (Effect.done v : Action σ α) (Effect.done v) 0 :=
  fun _ _ ↦ ⟨0, rfl, le_refl 0, fun _ _ ↦ rfl⟩

theorem counts_counting (body : Bindings → Action σ Value) (names : Bindings) :
    Counts (body names) (counting body names) 1 :=
  fun _ _ ↦ ⟨1, rfl, le_refl 1, fun _ _ ↦ rfl⟩

theorem Counts.bind {x : Action σ α} {c : Action (σ × ℕ) α} {f : α → Action σ β}
    {g : α → Action (σ × ℕ) β} {n m : ℕ} (hx : Counts x c n) (hf : ∀ v, Counts (f v) (g v) m) :
    Counts (x >>= f) (c >>= g) (n + m) := by
  intro s k
  obtain ⟨i, hc, hi, hok⟩ := hx s k
  rcases hrun : x s with ⟨e | v, s₁, calls⟩
  · rw [hrun] at hc
    refine ⟨i, ?_, by omega, ?_⟩
    · rw [Effect.bind_eq_of_error hc, Effect.bind_eq_of_error hrun]
    · intro w hw
      rw [Effect.bind_eq_of_error hrun] at hw
      cases hw
  · rw [hrun] at hc
    have hi : i = n := hok v (by rw [hrun])
    obtain ⟨j, hg, hj, hok⟩ := hf v s₁ (k + i)
    refine ⟨i + j, ?_, by omega, ?_⟩
    · rw [Effect.bind_eq_of_ok hc, Effect.bind_eq_of_ok hrun, hg, Nat.add_assoc]
    · intro w hw
      rw [Effect.bind_eq_of_ok hrun] at hw
      rw [hi, hok w hw]

theorem counts_foldItems {f : Value → Value → Action σ Value}
    {g : Value → Value → Action (σ × ℕ) Value} (h : ∀ acc x, Counts (f acc x) (g acc x) 1)
    (acc : Value) (xs : List Value) :
    Counts (foldItems f acc xs) (foldItems g acc xs) xs.length := by
  induction xs generalizing acc with
  | nil => exact counts_done acc
  | cons x xs ih =>
    rw [List.length_cons, Nat.add_comm]
    exact (h acc x).bind ih

/-- A reduce invokes its lambda once for each item, the first one apart if it starts from it. -/
theorem counts_reduceItems {names : Bindings} {a b : String} {leaves : List Tree}
    {body : Bindings → Action σ Value} {start : Value}
    (hstart : reduceStart? names [a, b] leaves = some start) {xs : List Value} (hxs : xs ≠ []) :
    Counts (reduceItems (placeholder? names leaves) names [a, b] body xs)
      (reduceItems (placeholder? names leaves) names [a, b] (counting body) xs)
      (if start.isNull then xs.length - 1 else xs.length) := by
  obtain ⟨x, xs, rfl⟩ := List.exists_cons_of_ne_nil hxs
  rw [reduceItems_cons hstart, reduceItems_cons hstart]
  dsimp only
  split
  · exact counts_foldItems (fun _ _ ↦ counts_counting body _) x xs
  · exact counts_foldItems (fun _ _ ↦ counts_counting body _) start (x :: xs)

/-! ## List operations of accepted trees -/

/-- A list operation over items that are known. -/
def overItems (p : Provider σ) (names : Bindings) (op : ListOp) (params : List String)
    (tool : String) (args : List Tree) : List Value → Action σ Value :=
  runListOp op (placeholder? names (Node.nodesAll args)) names params
    fun names ↦ eval p names (.call tool args)

/-- A list operation over items that are known, with the invocations of its lambda counted. -/
def overItemsCounting (p : Provider σ) (names : Bindings) (op : ListOp) (params : List String)
    (tool : String) (args : List Tree) : List Value → Action (σ × ℕ) Value :=
  runListOp op (placeholder? names (Node.nodesAll args)) names params
    (counting fun names ↦ eval p names (.call tool args))

/-- **List operations are compositional in their list.** A list operation that the check accepts
works out its items and then does the following with them. A map and a filter hand the items to the
lambda in turn and put what they give for each of them one behind the other; a filter gives items in
their order. A reduce does so from the value of its placeholder, or from the first item if that is
null, and each further item is handed to the lambda together with what the items before have led to.
Over at least one item, it invokes its lambda as often as there are items, and once less if it
starts from the first one. -/
theorem over_compositional (p : Provider σ) (names : Bindings) {known : Signatures} {op : ListOp}
    {params : List String} {tool : String} {args : List Tree} {items : Tree}
    (h : check known (.over op params tool args items) = .ok ()) :
    (eval p names (.over op params tool args items) = do
      let v ← eval p names items
      let xs ← itemsOf op v
      overItems p names op params tool args xs) ∧
    (op = .map → ∃ a all, params = [a] ∧
      InTurn (fun x ↦ invokeClosure p tool args names [(a, x)]) (fun _ y ↦ [y]) all ∧
      ∀ xs, overItems p names op params tool args xs = do return .list (← all xs)) ∧
    (op = .filter → ∃ a all, params = [a] ∧
      InTurn (fun x ↦ invokeClosure p tool args names [(a, x)])
        (fun x y ↦ if y.truthy then [x] else []) all ∧
      (∀ xs s zs s' calls, all xs s = ⟨.ok zs, s', calls⟩ → zs.Sublist xs) ∧
      ∀ xs, overItems p names op params tool args xs = do return .list (← all xs)) ∧
    (op = .reduce → ∃ a b start, params = [a, b] ∧
      reduceStart? names params (Node.nodesAll args) = some start ∧
      Reduces (fun acc x ↦ invokeClosure p tool args names [(a, acc), (b, x)]) start
        (overItems p names op params tool args) ∧
      ∀ xs, xs ≠ [] → Counts (overItems p names op params tool args xs)
        (overItemsCounting p names op params tool args xs)
        (if start.isNull then xs.length - 1 else xs.length)) := by
  have hready := ready_of_accepted h (Node.self_mem_nodes _)
  refine ⟨Evaluation.eval_over p names op params tool args items, ?_, ?_, ?_⟩
  · rintro rfl
    obtain ⟨a, rfl⟩ := List.length_eq_one_iff.mp hready.count
    exact ⟨a, _, rfl, (splits_each _).inTurn, fun xs ↦ rfl⟩
  · rintro rfl
    obtain ⟨a, rfl⟩ := List.length_eq_one_iff.mp hready.count
    exact ⟨a, _, rfl, (splits_keepItems _).inTurn, fun xs s zs s' calls ↦ sublist_of_keepItems,
      fun xs ↦ rfl⟩
  · rintro rfl
    obtain ⟨a, b, rfl⟩ := List.length_eq_two.mp hready.count
    obtain ⟨literal, hleaf⟩ := Option.isSome_iff_exists.mp (hready.placeholder rfl a rfl)
    have hstart : reduceStart? names [a, b] (Node.nodesAll args) =
        some (leafValue names a literal) := by
      rw [reduceStart?, List.head?_cons, Option.bind_some, hleaf, Option.map_some]
    have hreduces : Reduces (fun acc x ↦ invokeClosure p tool args names [(a, acc), (b, x)])
        (leafValue names a literal) (overItems p names .reduce [a, b] tool args) :=
      @reduces_reduceItems σ names a b _ (fun names ↦ eval p names (.call tool args)) _ hstart
    exact ⟨a, b, _, rfl, hstart, hreduces, fun xs ↦ counts_reduceItems hstart⟩

/-- Two numbers and a hole between them, of which the latest is kept. -/
def latest : Tree :=
  .over .reduce ["acc", "x"] "last" [.value "acc" .null, .value "x" .null]
    (.value "xs" (.list [.int 1, .null, .int 3]))

/-- Keeping the last argument. -/
def keepingLast : Toolbox :=
  ⟨[⟨"last", SmallTool.metadataOf "last" [("acc", none), ("x", none)], .last⟩], .direct⟩

/-- The accumulator is null after the second item, and the reduce goes on from it with the third. -/
theorem over_compositional_latest :
    check [] latest = .ok () ∧
    (eval keepingLast.provider [] latest none).result = .ok (.int 3) ∧
    Counts (overItems keepingLast.provider [] .reduce ["acc", "x"] "last"
        [.value "acc" .null, .value "x" .null] [.int 1, .null, .int 3])
      (overItemsCounting keepingLast.provider [] .reduce ["acc", "x"] "last"
        [.value "acc" .null, .value "x" .null] [.int 1, .null, .int 3]) 2 := by
  have h : check [] latest = .ok () := by cbv
  obtain ⟨-, -, -, hreduce⟩ := over_compositional keepingLast.provider [] h
  obtain ⟨a, b, start, hparams, hstart, -, hcount⟩ := hreduce rfl
  have hnull : start = .null := Option.some.inj (hstart.symm.trans rfl)
  have hcount := hcount [.int 1, .null, .int 3] (by simp)
  rw [hnull] at hcount
  exact ⟨h, by cbv, hcount⟩

end CallTree
