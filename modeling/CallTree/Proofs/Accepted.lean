import CallTree.Proofs.Guarantees
import CallTree.Proofs.Written
import CallTree.Tool.Toolbox

/-!
# Accepted programs do not go structurally wrong

A list operation takes the parameters of its lambda apart without looking, and a reduce takes the
first leaf of its accumulator's name without asking whether there is one. Nothing in the evaluator
guards this; it is the check that does, with a recursion of its own that finds fewer leaves than the
evaluator's. `ready_of_accepted` joins the two.

## Lambdas that get out

A lambda evaluates to a closure, which may be handed to tools, come back from them, lie in lists and
be bound to names. It can be invoked long after the program has ended, so what is shown of the
evaluation of a program has to be shown of the invocation of each of its lambdas, in any bindings.
The last part of `accepted_faults_provoked` says that there are no other lambdas to think of: all
closures in a result, however deep, are of lambdas of the program or were brought in from outside.
-/

namespace CallTree

variable {σ : Type}

/-! ## What is accepted -/

theorem parseWith_eq_ok_iff {known : Signatures} {v : Value} {t : Tree} :
    parseWith known v = .ok t ↔
      Node.ofValue? v = some t ∧ t.isWellShaped = true ∧ check known t = .ok () := by
  constructor
  · intro h
    rw [parseWith] at h
    split at h
    · exact nomatch h
    · next u hv =>
      split at h
      · next hs =>
        split at h
        · next hc =>
          obtain rfl := Except.ok.inj h
          exact ⟨hv, hs, hc⟩
        · exact nomatch h
      · exact nomatch h
  · rintro ⟨hv, hs, hc⟩
    simp only [parseWith, hv, hs, hc, if_true]

theorem parse_eq_ok_iff {v : Value} {t : Tree} :
    parse v = .ok t ↔
      Node.ofValue? v = some t ∧ t.isWellShaped = true ∧ check [] t = .ok () :=
  parseWith_eq_ok_iff

theorem parseWith_toValue {known : Signatures} {t : Tree} (hnamed : t.AllNamed)
    (hshape : t.isWellShaped = true) (hcheck : check known t = .ok ()) :
    parseWith known t.toValue = .ok t :=
  parseWith_eq_ok_iff.mpr ⟨nodeOfValue_toValue hnamed _, hshape, hcheck⟩

theorem parse_toValue {t : Tree} (hnamed : t.AllNamed) (hshape : t.isWellShaped = true)
    (hcheck : check [] t = .ok ()) : parse t.toValue = .ok t :=
  parseWith_toValue hnamed hshape hcheck

theorem isWellShaped_iff {t : Tree} :
    t.isWellShaped = true ↔ t.isProgram = true ∧ ∀ n ∈ t.nodes, n ≠ .bare := by
  rw [Node.isWellShaped, Bool.and_eq_true, Bool.not_eq_true', List.any_eq_false]
  refine and_congr_right fun _ ↦ forall₂_congr fun n _ ↦ ?_
  cases n <;> simp [Node.isBare]

/-! ## The rules of lambdas and list operations -/

theorem checkOver_eq_ok_iff {op : ListOp} {params : List String} :
    checkOver op params = .ok () ↔ params.length = op.arity := by
  rw [checkOver]
  split <;> simp [*]

theorem mem_sortedNames {a : String} {names : List String} : a ∈ sortedNames names ↔ a ∈ names := by
  rw [sortedNames, List.mem_eraseDups, List.mem_mergeSort]

theorem sortedNames_isEmpty {names : List String} : (sortedNames names).isEmpty ↔ names = [] := by
  rw [List.isEmpty_iff, List.eq_nil_iff_forall_not_mem, List.eq_nil_iff_forall_not_mem]
  exact forall_congr' fun a ↦ not_congr mem_sortedNames

/-- A lambda keeps its rule when its parameters are distinct, each of them names a leaf, and null
leaves are named by parameters. -/
theorem checkLambda_eq_ok_iff {params : List String} {leaves : List (String × Value)} :
    checkLambda params leaves = .ok () ↔ params.Nodup ∧ (∀ a ∈ params, ∃ l ∈ leaves, l.1 = a) ∧
      ∀ l ∈ leaves, l.2.isNull = true → l.1 ∈ params := by
  have hmissing : (params.filter fun a ↦ !leaves.any (·.1 == a)).isEmpty ↔
      ∀ a ∈ params, ∃ l ∈ leaves, l.1 = a := by
    simp [List.filter_eq_nil_iff]
  have hnulls : (sortedNames
      ((leaves.filter fun l ↦ l.2.isNull && !params.contains l.1).map Prod.fst)).isEmpty ↔
      ∀ l ∈ leaves, l.2.isNull = true → l.1 ∈ params := by
    rw [sortedNames_isEmpty]
    simp [List.filter_eq_nil_iff]
  rw [checkLambda]
  by_cases hnodup : params.Nodup
  · simp only [hnodup, decide_true, Bool.not_true, Bool.false_eq_true, if_false, true_and]
    rw [← hmissing, ← hnulls, ← Bool.and_eq_true]
    split
    · next h => exact ⟨fun _ ↦ h, fun _ ↦ rfl⟩
    · next h =>
      constructor
      · intro h'
        exact nomatch h'
      · intro h'
        exact absurd h' h
  · simp [hnodup]

/-- The leaf of a parameter is among those that the check found, and these are among those that the
evaluator finds. -/
theorem firstLeaf?_isSome_of_checkLambda {params : List String} {args : List Tree}
    (h : checkLambda params (boundLeavesAll args) = .ok ()) {a : String} (ha : a ∈ params) :
    (firstLeaf? a (Node.nodesAll args)).isSome := by
  obtain ⟨-, hleaves, -⟩ := checkLambda_eq_ok_iff.mp h
  obtain ⟨l, hl, rfl⟩ := hleaves a ha
  exact firstLeaf?_isSome_of_mem (value_mem_nodesAll_of_mem_boundLeavesAll hl)

/-- **Readiness.** A list operation of an accepted tree gets a lambda it can take apart. -/
theorem ready_of_accepted {known : Signatures} {t : Tree} (h : check known t = .ok ())
    {op : ListOp} {params : List String} {tool : String} {args : List Tree} {items : Tree}
    (hn : .over op params tool args items ∈ t.nodes) : op.Ready params (Node.nodesAll args) := by
  have hrule := check_eq_ok_iff.mp h
  have hlambda : .lambda params tool args ∈ t.nodes :=
    Node.nodes_trans hn (by simp [Node.nodes])
  refine ⟨checkOver_eq_ok_iff.mp (hrule _ hn), fun _ a ha ↦ ?_⟩
  exact firstLeaf?_isSome_of_checkLambda (hrule _ hlambda) (List.mem_of_mem_head? ha)

/-! ## Faults that a provider or a tool provokes -/

/-- The faults that an evaluation may have in spite of the check, each at a node of the tree: the
tool of a call could not be looked up for the number of arguments at hand, the tool failed, or what
stood in the place of a list was none. -/
inductive Provoked (p : Provider σ) (t : Tree) : EvalFault → Prop where
  | lookup {tool : String} {args : List Tree} {e : EvalFault} (hn : .call tool args ∈ t.nodes)
      (h : LookupFault p (toolName tool) args.length e) : Provoked p t e
  | invoke {tool : String} {args : List Tree} {arguments : List (String × Value)} {s : σ}
      {f : Fault} (hn : .call tool args ∈ t.nodes)
      (h : (p.invoke (toolName tool) arguments s).1 = .error f) : Provoked p t (.raised f)
  | notList {op : ListOp} {params : List String} {tool : String} {args : List Tree} {items : Tree}
      (hn : .over op params tool args items ∈ t.nodes) : Provoked p t (.notList op)

/-- The faults of a program that is not put together as it should be. -/
def EvalFault.IsStructural (e : EvalFault) : Prop := e.IsUnready ∨ e = .unsupported

theorem Provoked.not_isStructural {p : Provider σ} {t : Tree} {e : EvalFault}
    (h : Provoked p t e) : ¬ e.IsStructural := by
  rintro (hu | rfl)
  · cases h with
    | lookup hn h => cases h <;> exact hu
    | invoke hn h => exact hu
    | notList hn => exact hu
  · cases h with
    | lookup hn h => cases h

/-! ## Closures in values -/

/-- The values that a value holds at any depth, itself among them; a closure holds what is bound in
it. -/
inductive Value.Within : Value → Value → Prop where
  | refl (v : Value) : Within v v
  | list {v x : Value} {xs : List Value} (hx : x ∈ xs) (h : Within v x) : Within v (.list xs)
  | tuple {v x : Value} {xs : List Value} (hx : x ∈ xs) (h : Within v x) : Within v (.tuple xs)
  | set {v x : Value} {xs : List Value} (hx : x ∈ xs) (h : Within v x) : Within v (.set xs)
  | key {v : Value} {e : Value × Value} {es : List (Value × Value)} (he : e ∈ es)
      (h : Within v e.1) : Within v (.map es)
  | entry {v : Value} {e : Value × Value} {es : List (Value × Value)} (he : e ∈ es)
      (h : Within v e.2) : Within v (.map es)
  | member {v x : Value} (h : Within v x) : Within v (.member x)
  | bound {v : Value} {params : List String} {tool : String} {args : List Tree}
      {names : List (String × Value)} {b : String × Value} (hb : b ∈ names)
      (h : Within v b.2) : Within v (.closure params tool args names)

/-- All closures in a value are of lambdas of a given kind. -/
def Value.Holds (K : List String → String → List Tree → Prop) (v : Value) : Prop :=
  ∀ {params tool args names}, (Value.closure params tool args names).Within v → K params tool args

theorem valuesClosed_holds (K : List String → String → List Tree → Prop) :
    ValuesClosed (Value.Holds K) where
  null h := nomatch h
  list := by
    intro xs
    constructor
    · intro h x hx params tool args names hc
      exact h (.list hx hc)
    · intro h params tool args names hc
      cases hc with
      | list hx hc => exact h _ hx hc

theorem holds_int (K : List String → String → List Tree → Prop) (n : Int) :
    (Value.int n).Holds K := fun h ↦ nomatch h

theorem holds_closure {K : List String → String → List Tree → Prop} {params : List String}
    {tool : String} {args : List Tree} {names : Bindings} (hK : K params tool args)
    (hnames : ∀ b ∈ names, b.2.Holds K) : (Value.closure params tool args names).Holds K := by
  intro params' tool' args' names' hc
  cases hc with
  | refl => exact hK
  | bound hb hc => exact hnames _ hb hc

/-- The tools of a provider give only values of a kind when they are given only such values. -/
def Provider.Keeps (p : Provider σ) (V : Value → Prop) : Prop :=
  ∀ {tool args s v}, (∀ a ∈ args, V a.2) → (p.invoke tool args s).1 = .ok v → V v

/-! ## Programs that were accepted -/

/-- The nodes of an accepted program guarantee that faults are provoked, for any kind of values that
its leaves and lambdas are of and that its tools keep. -/
theorem guarantees_of_parse {v : Value} {t : Tree} (h : parse v = .ok t) {p : Provider σ}
    {V : Value → Prop} (hp : p.Keeps V)
    (hleaf : ∀ {name literal}, .value name literal ∈ t.nodes → V literal)
    (hlambda : ∀ {params tool args}, .lambda params tool args ∈ t.nodes → ∀ names : Bindings,
      (∀ b ∈ names, V b.2) → V (.closure params tool args names)) :
    ∀ n ∈ t.nodes, n.Guarantees p V (Provoked p t) fun _ ↦ True := by
  obtain ⟨-, hshape, hcheck⟩ := parse_eq_ok_iff.mp h
  intro n hn
  match n, hn with
  | .value name literal, hn => exact hleaf hn
  | .call tool args, hn =>
    refine ⟨fun e he ↦ .lookup hn he, fun {params vs} _ _ _ hvs ↦ ?_⟩
    refine invoke_meets (fun s w hw ↦ hp (fun a ha ↦ ?_) hw) (fun s f hf ↦ .invoke hn hf) trivial
    exact hvs a.2 (List.of_mem_zip ha).2
  | .program heading body, _ => trivial
  | .cond test yes no, _ => trivial
  | .lambda params tool args, hn => exact hlambda hn
  | .over op params tool args items, hn =>
    exact ⟨.notList hn, Or.inl (ready_of_accepted hcheck hn)⟩
  | .bare, hn => exact absurd rfl ((isWellShaped_iff.mp hshape).2 _ hn)

/-- The same for the invocation of a lambda of the program, which evaluates the call that is its
body. -/
theorem invokeClosure_meets {p : Provider σ} {V : Value → Prop} (hV : ValuesClosed V)
    {E : EvalFault → Prop} {C : Call → Prop} {t : Tree}
    (ht : ∀ n ∈ t.nodes, n.Guarantees p V E C) {params : List String} {tool : String}
    {args : List Tree} (hn : .lambda params tool args ∈ t.nodes) {names : Bindings}
    {arguments : List (String × Value)} (hnames : ∀ b ∈ names, V b.2)
    (hargs : ∀ a ∈ arguments, V a.2) :
    (invokeClosure p tool args names arguments).Meets V E C := by
  refine eval_meets hV (fun n hmem ↦ ht n (Node.nodes_trans hn ?_)) (extend_values hnames hargs)
  rw [Node.nodes]
  exact List.mem_cons_of_mem _ hmem

/-- **Accepted programs do not go structurally wrong.** Every fault of an evaluation of an accepted
program, in any bindings and with any provider, was provoked; no list operation fails to take its
lambda apart, and no node is unsupported. The same holds of every invocation of a lambda of the
program, in whatever bindings its closure was made and on whatever arguments.

These are all the lambdas that get out. For any kind `K` that the lambdas of the program are of, if
what is bound, what stands at the leaves and what the tools give holds only closures of kind `K`,
then so does what evaluations and invocations give, and it can be invoked in turn. -/
theorem accepted_faults_provoked {v : Value} {t : Tree} (h : parse v = .ok t) (p : Provider σ) :
    (∀ names s e, (eval p names t s).result = .error e → Provoked p t e ∧ ¬ e.IsStructural) ∧
    (∀ params tool args, .lambda params tool args ∈ t.nodes → ∀ names arguments s e,
      (invokeClosure p tool args names arguments s).result = .error e →
        Provoked p t e ∧ ¬ e.IsStructural) ∧
    ∀ K : List String → String → List Tree → Prop,
      (∀ params tool args, .lambda params tool args ∈ t.nodes → K params tool args) →
      (∀ name literal, .value name literal ∈ t.nodes → literal.Holds K) →
      p.Keeps (Value.Holds K) →
      (∀ names : Bindings, (∀ b ∈ names, b.2.Holds K) → ∀ s w,
        (eval p names t s).result = .ok w → w.Holds K) ∧
      ∀ params tool args, .lambda params tool args ∈ t.nodes →
        ∀ (names : Bindings) (arguments : List (String × Value)), (∀ b ∈ names, b.2.Holds K) →
          (∀ a ∈ arguments, a.2.Holds K) → ∀ s w,
            (invokeClosure p tool args names arguments s).result = .ok w → w.Holds K := by
  have hall : ValuesClosed fun _ ↦ True :=
    ⟨trivial, fun {_} ↦ ⟨fun _ _ _ ↦ trivial, fun _ ↦ trivial⟩⟩
  have hany := guarantees_of_parse h (V := fun _ ↦ True) (p := p) (fun _ _ ↦ trivial)
    (fun _ ↦ trivial) (fun _ _ _ ↦ trivial)
  have hfault : ∀ {e}, Provoked p t e → Provoked p t e ∧ ¬ e.IsStructural :=
    fun he ↦ ⟨he, he.not_isStructural⟩
  refine ⟨?_, ?_, ?_⟩
  · intro names s e he
    exact hfault ((eval_meets hall hany fun _ _ ↦ trivial).fault he)
  · intro params tool args hn names arguments s e he
    exact hfault ((invokeClosure_meets hall hany hn (fun _ _ ↦ trivial) fun _ _ ↦ trivial).fault he)
  · intro K hK hleaf hp
    have hkind := guarantees_of_parse h hp (hleaf _ _)
      fun hn names hnames ↦ holds_closure (hK _ _ _ hn) hnames
    constructor
    · intro names hnames s w hw
      exact (eval_meets (valuesClosed_holds K) hkind hnames).value hw
    · intro params tool args hn names arguments hnames hargs s w hw
      exact (invokeClosure_meets (valuesClosed_holds K) hkind hn hnames hargs).value hw

/-- Adds up the halves of numbers; the accumulator's leaf stands beside a nested lambda. -/
def sumOfHalves : Tree :=
  .program ⟨.single, none, none⟩ [
    .over .reduce ["acc", "row"] "add" [
      .over .map ["x"] "half" [.value "x" .null] (.value "row" .null),
      .cond (.value "acc" .null) (.value "acc" .null) none]
      (.value "rows" (.list [.list [.int 2], .list [.int 4, .int 6]]))]

/-- The same beside a lambda that is handed to a tool. -/
def sumAndHalf : Tree :=
  .program ⟨.parallel, none, none⟩
    [sumOfHalves, .call "keep" [.lambda ["x"] "half" [.value "x" .null]]]

/-- Tools that give back their first argument. -/
def handingBack : Provider Unit where
  list s := (.ok [], s)
  define tool s := (.ok (SmallTool.metadataOf tool
    (if tool = "add" then [("a", none), ("b", none)] else [("a", none)])), s)
  invoke _ args s := (.ok (args.head?.elim .null Prod.snd), s)

/-- The lambda comes back from the tool and is in the result, with nothing else that could be
invoked. -/
theorem accepted_faults_provoked_sumAndHalf :
    parse sumAndHalf.toValue = .ok sumAndHalf ∧
    (eval handingBack [] sumAndHalf ()).result = .ok (.list [.list [.int 4, .int 6],
      .closure ["x"] "half" [.value "x" .null] []]) ∧
    (∀ names s e, (eval handingBack names sumAndHalf s).result = .error e →
      Provoked handingBack sumAndHalf e ∧ ¬ e.IsStructural) ∧
    (∀ names arguments s e,
      (invokeClosure handingBack "half" [.value "x" .null] names arguments s).result = .error e →
        Provoked handingBack sumAndHalf e ∧ ¬ e.IsStructural) ∧
    ∀ w, (eval handingBack [] sumAndHalf ()).result = .ok w →
      w.Holds fun params tool args ↦ .lambda params tool args ∈ sumAndHalf.nodes := by
  have h : parse sumAndHalf.toValue = .ok sumAndHalf :=
    parse_toValue (by decide) (by decide) (by cbv)
  obtain ⟨heval, hinvoke, hkind⟩ := accepted_faults_provoked h handingBack
  have hlambda : .lambda ["x"] "half" [.value "x" .null] ∈ sumAndHalf.nodes := by
    simp [sumAndHalf, sumOfHalves, Node.nodes, Node.nodesAll]
  refine ⟨h, by cbv, heval, fun names arguments ↦ hinvoke _ _ _ hlambda names arguments, ?_⟩
  have hclosed := valuesClosed_holds fun params tool args ↦
    .lambda params tool args ∈ sumAndHalf.nodes
  intro w hw
  refine (hkind _ (fun _ _ _ hn ↦ hn) ?_ ?_).1 [] (fun _ hb ↦ absurd hb List.not_mem_nil) () w hw
  · intro name literal hn
    simp only [sumAndHalf, sumOfHalves, Node.nodes, Node.nodesAll, List.append_nil,
      List.cons_append, List.nil_append, List.mem_cons, Node.value.injEq, reduceCtorEq, false_or,
      List.not_mem_nil, or_false] at hn
    rcases hn with ⟨-, rfl⟩ | ⟨-, rfl⟩ | ⟨-, rfl⟩ | ⟨-, rfl⟩ | ⟨-, rfl⟩ | ⟨-, rfl⟩
    case inr.inr.inr.inr.inl =>
      refine hclosed.list.mpr fun row hrow ↦ ?_
      simp only [List.mem_cons, List.not_mem_nil, or_false] at hrow
      obtain rfl | rfl := hrow <;> exact hclosed.list.mpr (by simp [holds_int])
    all_goals exact hclosed.null
  · intro tool args s v hargs hv
    obtain rfl := Except.ok.inj hv
    cases args with
    | nil => exact hclosed.null
    | cons a args => exact hargs a List.mem_cons_self

end CallTree
