import CallTree.Proofs.Accepted
import CallTree.Proofs.Calls

/-!
# Checking the number of arguments beforehand

The number of arguments of a call is checked twice. The check of a program looks a call up in the
signatures by the name that is written in the program. The evaluator asks the provider under the
name without the mark that may stand in front of it. Where the signatures describe what the provider
has in its registry, the two agree on every call without a mark, and a program that was accepted
fails for the number of arguments only at a call with a mark (`arity_faults_marked`).

At such a call they need not agree: it is accepted because its name is not in the signatures, and
may fail when it is evaluated, after other tools have been called (`marked_call_not_checked`).
-/

namespace CallTree

variable {σ : Type}

/-! ## Names with and without the mark -/

theorem dropMark_of_prefix {mark cs : List Char} (h : mark <+: cs) :
    mark ++ dropMark mark cs = cs := by
  obtain ⟨rest, rfl⟩ := h
  simp [dropMark]

theorem dropMark_of_not_prefix {mark cs : List Char} (h : ¬ mark <+: cs) :
    dropMark mark cs = cs := by
  rw [dropMark, if_neg (by rwa [List.isPrefixOf_iff_prefix])]

/-- A tool is asked for under its own name, or its name has a mark in front of that. -/
theorem toolName_eq_or_marked (tool : String) :
    toolName tool = tool ∨ tool = callMark ++ toolName tool := by
  by_cases h : callMark.toList <+: tool.toList
  · refine Or.inr (String.toList_inj.mp ?_)
    rw [toolName, String.toList_append, String.toList_ofList, dropMark_of_prefix h]
  · refine Or.inl ?_
    rw [toolName, dropMark_of_not_prefix h, String.ofList_toList]

/-! ## Registries and signatures -/

/-- The registry of a provider is filled, and the signatures give for every tool in it the names of
its properties, in their order. A tool whose metadata cannot be normalised has none. -/
def Signatures.Describe (known : Signatures) (registry : σ → Option (Registry Value))
    (s : σ) : Prop :=
  ∃ r, registry s = some r ∧ ∀ name raw d, r.lookup name = some raw →
    Definition.ofValue (some name) raw = .ok d → known.lookup name = some d.parameters

/-- A provider looks its tools up in its registry, and after a call of a tool the signatures
describe the registry if they did before. -/
structure Provider.Registers (p : Provider σ) (registry : σ → Option (Registry Value))
    (known : Signatures) : Prop where
  define : p.define = lookUp registry p.list
  invoke : ∀ tool args s, known.Describe registry s →
    known.Describe registry (p.invoke tool args s).2

section

variable {p : Provider σ} {registry : σ → Option (Registry Value)} {known : Signatures} {s : σ}

/-- Looking a tool up leaves the provider as it was. -/
theorem Provider.Registers.define_state (hp : p.Registers registry known)
    (hs : known.Describe registry s) (tool : String) : (p.define tool s).2 = s := by
  obtain ⟨r, hr, -⟩ := hs
  rw [hp.define]
  exact (lookUp_of_registry hr tool).1

/-- The definition that a provider answers with has the parameters of the signature. -/
theorem Provider.Registers.define_parameters (hp : p.Registers registry known)
    (hs : known.Describe registry s) {tool : String} {raw : Value} {s₁ : σ} {d : Definition}
    (hdefine : p.define tool s = (.ok raw, s₁))
    (hd : Definition.ofValue (some tool) raw = .ok d) : known.lookup tool = some d.parameters := by
  obtain ⟨r, hr, hknown⟩ := hs
  have hraw : (lookUp registry p.list tool s).1 = .ok raw := by rw [← hp.define, hdefine]
  obtain ⟨v, d', hv, hd', rfl⟩ := (lookUp_of_registry hr tool).2 raw hraw
  -- the registry's own entry was normalised before, and is normalised to the same again
  have htwice : Definition.ofValue (some tool) d'.toValue = .ok d' :=
    Definition.ofValue_toValue hd' (by simp [Definition.name_of_ofValue hd'])
  obtain rfl : d = d' := Except.ok.inj (hd.symm.trans htwice)
  exact hknown tool v d hv hd'

end

theorem checkCall_eq_ok_iff {known : Signatures} {tool : String} {count : Nat} :
    checkCall known tool count = .ok () ↔ ∀ params ∈ known.lookup tool, params.length = count := by
  rw [checkCall]
  cases known.lookup tool with
  | none => simp
  | some expected =>
    by_cases h : expected.length = count <;> simp [h]

/-! ## Accepted programs -/

/-- A call of a program with a mark in front of its tool's name has another number of arguments than
the signature of the tool says. -/
def MarkedMismatch (known : Signatures) (t : Tree) (tool : String) (expected got : Nat) : Prop :=
  ∃ args params, .call (callMark ++ tool) args ∈ t.nodes ∧ known.lookup tool = some params ∧
    params.length = expected ∧ args.length = got ∧ expected ≠ got

/-- What is asked of a fault: it is not about the number of arguments, or a marked call is to
blame. -/
def ArityBlamed (known : Signatures) (t : Tree) (e : EvalFault) : Prop :=
  ∀ {tool expected got}, e = .arity tool expected got → MarkedMismatch known t tool expected got

/-- One call of an accepted program: if looking its tool up fails for the number of arguments, the
check has looked for another name than the evaluator. -/
theorem markedMismatch_of_arity {known : Signatures} {t : Tree} (h : check known t = .ok ())
    {p : Provider σ} {registry : σ → Option (Registry Value)} (hp : p.Registers registry known)
    {s : σ} (hs : known.Describe registry s) {tool : String} {args : List Tree}
    (hn : .call tool args ∈ t.nodes) {name : String} {expected got : Nat}
    (hfault : (parametersFor p (toolName tool) args.length s).result =
      .error (.arity name expected got)) : MarkedMismatch known t name expected got := by
  obtain ⟨raw, s₁, d, hdefine, hd, hrun⟩ | ⟨e, he, hrun⟩ :=
    parametersFor_cases p (toolName tool) args.length s
  · rw [hrun, Definition.parametersOrArity, Definition.name_of_ofValue hd] at hfault
    have hknown := hp.define_parameters hs hdefine hd
    split at hfault
    · cases hfault
    · next hcount =>
      cases hfault
      obtain heq | hmarked := toolName_eq_or_marked tool
      · rw [heq] at hknown
        have hrule := checkCall_eq_ok_iff.mp (check_eq_ok_iff.mp h _ hn)
        exact absurd (hrule _ hknown) hcount
      · rw [hmarked] at hn
        exact ⟨args, d.parameters, hn, hknown, rfl, rfl, hcount⟩
  · rw [hrun] at hfault
    exact absurd (Except.error.inj hfault) (he _ _ _)

/-- An evaluation of a node of an accepted program leaves a registry that the signatures describe,
and blames a marked call if it fails for a number of arguments. -/
theorem satisfies_arityBlamed {known : Signatures} {t : Tree} (h : check known t = .ok ())
    {p : Provider σ} {registry : σ → Option (Registry Value)} (hp : p.Registers registry known)
    {n : Tree} (hn : n ∈ t.nodes) (names : Bindings) {s : σ} (hs : known.Describe registry s) :
    (eval p names n s).Satisfies (known.Describe registry) (ArityBlamed known t)
      fun _ ↦ True := by
  refine Evaluation.satisfies_of_parts (a := ⟨names, n, s⟩) hs ?_
  rintro ⟨names', m, s₀⟩ hwithin hs₀
  have hm : m ∈ t.nodes := Node.nodes_trans hn hwithin.mem_nodes
  cases m with
  | call tool args =>
    constructor
    · refine ⟨?_, ?_, fun _ ↦ trivial⟩
      · rw [parametersFor_state, hp.define_state hs₀]
        exact hs₀
      · rintro e he tool' expected got rfl
        exact markedMismatch_of_arity h hp hs₀ hm he
    · intro params vs s₁ s₂ tr₁ tr₂ _ _ hs₂
      rw [invoke_run]
      refine ⟨hp.invoke _ _ _ hs₂, ?_, fun _ ↦ trivial⟩
      rintro e he tool' expected got rfl
      -- a tool may fail as it likes, but not for the evaluator
      cases hr : (p.invoke (toolName tool) (params.zip vs) s₂).1 with
      | ok v => rw [hr] at he; cases he
      | error f => rw [hr] at he; cases he
  | «over» op params tool args items =>
    refine ⟨by rintro _ _ _ ⟨⟩, ?_⟩
    rintro e he tool' expected got rfl
    exact he.elim
  | bare => rintro _ _ _ ⟨⟩
  | _ => trivial

/-- **Only marked calls escape the check.** Let the signatures describe the registry that a provider
looks its tools up in. Wherever a program that was accepted with them, or the body of one of its
lambdas, is evaluated, it leaves such a registry again, and it fails for a number of arguments only
if a call with a mark in front of its tool's name has another number of arguments than the
signature says.

So the check is sound for a program whose marked calls keep the rule under the name that the
provider is asked for. -/
theorem arity_faults_marked {known : Signatures} {v : Value} {t : Tree}
    (h : parseWith known v = .ok t) {p : Provider σ} {registry : σ → Option (Registry Value)}
    (hp : p.Registers registry known) :
    (∀ n ∈ t.nodes, ∀ names s, known.Describe registry s →
      known.Describe registry (eval p names n s).state ∧
      ∀ tool expected got, (eval p names n s).result = .error (.arity tool expected got) →
        ∃ args params, .call (callMark ++ tool) args ∈ t.nodes ∧
          known.lookup tool = some params ∧ params.length = expected ∧ args.length = got ∧
          expected ≠ got) ∧
    ((∀ tool args, .call (callMark ++ tool) args ∈ t.nodes →
        checkCall known tool args.length = .ok ()) →
      ∀ n ∈ t.nodes, ∀ names s, known.Describe registry s → ∀ tool expected got,
        (eval p names n s).result ≠ .error (.arity tool expected got)) := by
  obtain ⟨-, -, hcheck⟩ := parseWith_eq_ok_iff.mp h
  have hblamed : ∀ n ∈ t.nodes, ∀ names s, known.Describe registry s →
      known.Describe registry (eval p names n s).state ∧
      ∀ tool expected got, (eval p names n s).result = .error (.arity tool expected got) →
        MarkedMismatch known t tool expected got := by
    intro n hn names s hs
    have hrun := satisfies_arityBlamed hcheck hp hn names hs
    exact ⟨hrun.state, fun tool expected got he ↦ hrun.fault he rfl⟩
  refine ⟨hblamed, fun hmarked n hn names s hs tool expected got he ↦ ?_⟩
  obtain ⟨args, params, hcall, hknown, rfl, rfl, hne⟩ := (hblamed n hn names s hs).2 _ _ _ he
  exact hne (checkCall_eq_ok_iff.mp (hmarked tool args hcall) params hknown)

/-! ## A marked call that was not checked -/

/-- The signatures of the two tools. -/
def addOrSameSignatures : Signatures := [("add", ["a", "b"]), ("same", ["a"])]

theorem addOrSame_registers : addOrSame.provider.Registers id addOrSameSignatures where
  define := rfl
  invoke tool args s h := by
    have hstate : (addOrSame.provider.invoke tool args s).2 = s := by
      simp only [Toolbox.provider]
      split <;> rfl
    rwa [hstate]

theorem addOrSame_describe : addOrSameSignatures.Describe id (some addOrSame.registry) := by
  refine ⟨addOrSame.registry, rfl, fun name raw d hraw hd ↦ ?_⟩
  obtain ⟨before, after, hregistry, -⟩ := List.lookup_eq_some_iff.mp hraw
  have hmem : (name, raw) ∈ [
      ("add", SmallTool.metadataOf "add" [("a", none), ("b", none)]),
      ("same", SmallTool.metadataOf "same" [("a", none)])] := by
    change (name, raw) ∈ addOrSame.registry
    rw [hregistry]
    simp
  simp only [List.mem_cons, Prod.mk.injEq, List.not_mem_nil, or_false] at hmem
  obtain ⟨rfl, rfl⟩ | ⟨rfl, rfl⟩ := hmem
  · have hadd : Definition.ofValue (some "add")
        (SmallTool.metadataOf "add" [("a", none), ("b", none)]) =
          .ok ⟨"add", [("a", []), ("b", [])], none⟩ := by cbv
    obtain rfl := Except.ok.inj (hadd.symm.trans hd)
    rfl
  · have hsame : Definition.ofValue (some "same") (SmallTool.metadataOf "same" [("a", none)]) =
        .ok ⟨"same", [("a", [])], none⟩ := by cbv
    obtain rfl := Except.ok.inj (hsame.symm.trans hd)
    rfl

/-- A map with a marked call as its body, which has the arguments it should have. -/
def markedMap : Tree :=
  .program ⟨.single, none, none⟩ [
    .over .map ["a"] "functions.add" [.value "a" .null, .call "same" [.value "b" (.int 1)]]
      (.value "items" (.list [.int 4, .int 6]))]

/-- No evaluation of the program, or of the body of its lambda in any bindings, fails for a number
of arguments. -/
theorem arity_faults_marked_markedMap :
    parseWith addOrSameSignatures markedMap.toValue = .ok markedMap ∧
    (eval addOrSame.provider [] markedMap (some addOrSame.registry)).result =
      .ok (.list [.int 5, .int 7]) ∧
    addOrSame.provider.Registers id addOrSameSignatures ∧
    addOrSameSignatures.Describe id (some addOrSame.registry) ∧
    ∀ n ∈ markedMap.nodes, ∀ names tool expected got,
      (eval addOrSame.provider names n (some addOrSame.registry)).result ≠
        .error (.arity tool expected got) := by
  have h : parseWith addOrSameSignatures markedMap.toValue = .ok markedMap :=
    parseWith_toValue (by decide) (by decide) (by cbv)
  refine ⟨h, by cbv, addOrSame_registers, addOrSame_describe, ?_⟩
  intro n hn names tool expected got
  refine (arity_faults_marked h addOrSame_registers).2 ?_ n hn names _ addOrSame_describe _ _ _
  intro tool args hcall
  simp only [markedMap, Node.nodes, Node.nodesAll, List.append_nil, List.mem_cons, reduceCtorEq,
    Node.call.injEq, List.mem_append, List.not_mem_nil, or_false, false_or] at hcall
  obtain ⟨htool, rfl⟩ | ⟨htool, -⟩ := hcall
  · have hadd : tool = "add" := by
      rw [← String.toList_inj] at htool ⊢
      simpa [callMark] using htool
    rw [hadd]
    rfl
  · rw [← String.toList_inj] at htool
    simp [callMark] at htool

/-- A call with a mark that lacks an argument. -/
def markedLacking : Tree :=
  .program ⟨.single, none, none⟩ [.call "functions.add" [.value "a" (.int 1)]]

/-- **A marked call is not checked.** The program is accepted with signatures that describe the
registry, and its evaluation fails because an argument is lacking. -/
theorem marked_call_not_checked :
    parseWith addOrSameSignatures markedLacking.toValue = .ok markedLacking ∧
    addOrSame.provider.Registers id addOrSameSignatures ∧
    addOrSameSignatures.Describe id (some addOrSame.registry) ∧
    eval addOrSame.provider [] markedLacking (some addOrSame.registry) =
      ⟨.error (.arity "add" 2 1), some addOrSame.registry, []⟩ :=
  ⟨parseWith_toValue (by decide) (by decide) (by cbv), addOrSame_registers, addOrSame_describe,
    by cbv⟩

end CallTree
