import CallTree.Proofs.Collecting
import CallTree.Proofs.Contexts
import CallTree.Tool.Toolbox

/-!
# Calling a compiled tool

A compiled tool runs its program in a context where every leaf is bound to the argument of its
parameter. What it means is simpler: the program with the literals of its leaves replaced by the
arguments. `apply_eq_run_replaceLiterals` says that the two agree, in result, state and tool calls,
whatever the names of the leaves are and however often one occurs.
-/

namespace CallTree

/-! ## Arguments -/

/-- How a call fails whose program fails: with the program's fault as its cause. Being called off is
no fault of the program and is passed on as it is. -/
def CallFault.ofEval (program : String) : EvalFault → CallFault
  | .raised .cancelled => .cancelled
  | e => .execution program e

theorem CallFault.ofEval_eq_execution_iff {program : String} {e e' : EvalFault} :
    ofEval program e = .execution program e' ↔ e = e' ∧ e' ≠ .raised .cancelled := by
  by_cases he : e = .raised .cancelled
  · rw [he, ofEval]
    constructor
    · exact nofun
    · rintro ⟨rfl, hne⟩
      exact absurd rfl hne
  · rw [ofEval.eq_2 program e he, execution.injEq]
    constructor
    · rintro ⟨-, rfl⟩
      exact ⟨rfl, he⟩
    · rintro ⟨rfl, -⟩
      exact ⟨rfl, rfl⟩

namespace CompiledTool

/-- The names of the arguments are exactly those of the parameters. -/
def Matches (c : CompiledTool) (arguments : List (String × Value)) : Prop :=
  ∀ name, name ∈ arguments.map Prod.fst ↔ name ∈ c.names

theorem values_eq_map_names (c : CompiledTool) (arguments : List (String × Value)) :
    c.values arguments = c.names.map fun name ↦ (arguments.reverse.lookup name).getD .null := by
  rw [values, names, List.map_map]
  rfl

theorem lookup_isSome_iff_mem {arguments : List (String × Value)} {name : String} :
    (arguments.lookup name).isSome ↔ name ∈ arguments.map Prod.fst := by
  rw [List.lookup_isSome_iff, List.mem_map]
  exact exists_congr fun a ↦ and_congr_right fun _ ↦ beq_iff_eq.trans eq_comm

theorem accepts_iff {c : CompiledTool} {arguments : List (String × Value)} :
    c.accepts arguments = true ↔ c.Matches arguments := by
  have hparameters : c.parameters.all (fun q ↦ (arguments.lookup q.name).isSome) = true ↔
      ∀ name ∈ c.names, name ∈ arguments.map Prod.fst := by
    rw [List.all_eq_true, names, List.forall_mem_map]
    exact forall₂_congr fun q _ ↦ lookup_isSome_iff_mem
  have harguments : arguments.all (fun a ↦ c.parameters.any (·.name == a.1)) = true ↔
      ∀ name ∈ arguments.map Prod.fst, name ∈ c.names := by
    rw [List.all_eq_true, List.forall_mem_map]
    refine forall₂_congr fun a _ ↦ ?_
    simp only [List.any_eq_true, beq_iff_eq, names, List.mem_map]
  rw [accepts, Bool.and_eq_true, hparameters, harguments]
  exact ⟨fun h name ↦ ⟨h.2 name, h.1 name⟩, fun h ↦ ⟨fun n ↦ (h n).mpr, fun n ↦ (h n).mp⟩⟩

/-- The values of arguments that are given in any order, one for each parameter. -/
theorem values_of_perm {c : CompiledTool} (hnodup : c.names.Nodup) {vs : List Value}
    (hlen : c.names.length = vs.length) {arguments : List (String × Value)}
    (h : arguments.Perm (c.names.zip vs)) : c.Matches arguments ∧ c.values arguments = vs := by
  have hkeys : (arguments.map Prod.fst).Perm c.names := by
    have hmap := h.map Prod.fst
    rwa [List.map_fst_zip (Nat.le_of_eq hlen)] at hmap
  have hmatches : c.Matches arguments := fun name ↦ hkeys.mem_iff
  refine ⟨hmatches, ?_⟩
  -- each name has one argument only, so a look-up finds the one that was given for it
  have hrev : (arguments.reverse.map Prod.fst).Nodup := by
    rw [List.map_reverse, List.nodup_reverse]
    exact hkeys.nodup_iff.mpr hnodup
  have hlookup : ∀ e ∈ c.names.zip vs, arguments.reverse.lookup e.1 = some e.2 := fun e he ↦
    lookup_eq_some_of_mem hrev (List.mem_reverse.mpr (h.mem_iff.mpr he))
  refine List.ext_getElem (by rw [values_eq_map_names, List.length_map, hlen]) fun i hi hi' ↦ ?_
  have hzip : (c.names[i], vs[i]) ∈ c.names.zip vs := by
    refine List.mem_iff_getElem.mpr ⟨i, ?_, List.getElem_zip⟩
    rw [List.length_zip]
    omega
  simp only [values_eq_map_names, List.getElem_map]
  rw [hlookup _ hzip, Option.getD_some]

section

variable {σ τ : Type} {p : Provider σ} {t : Tree} {c : CompiledTool} {s s' : σ}

theorem apply_of_matches (r : Provider τ) {arguments : List (String × Value)}
    (h : c.Matches arguments) : c.apply r [] arguments =
      (evalIn r (c.context arguments) 0 c.body).failingAs (CallFault.ofEval c.name) := by
  funext s
  rw [apply, List.isEmpty_nil, accepts_iff.mpr h, Bool.and_self, if_pos rfl, Effect.failingAs]
  rcases evalIn r (c.context arguments) 0 c.body s with ⟨e | v, s', trace⟩
  · cases e with
    | raised f => cases f <;> rfl
    | _ => rfl
  · rfl

theorem apply_of_not_matches (r : Provider τ) {positional : List Value}
    {arguments : List (String × Value)} (h : ¬ (positional = [] ∧ c.Matches arguments)) (s : τ) :
    c.apply r positional arguments s = ⟨.error (.binding c.name), s, []⟩ := by
  rw [apply, if_neg]
  rw [Bool.and_eq_true, List.isEmpty_iff, accepts_iff]
  exact h

/-- The body of a compiled tool evaluates, in its arguments, as the program with the literals of its
leaves replaced by the arguments. -/
theorem evalIn_body (hc : compile p t s = (.ok c, s')) (r : Provider τ)
    (arguments : List (String × Value)) :
    evalIn r (c.context arguments) 0 c.body =
      run r (t.replaceLiterals (c.values arguments)) := by
  obtain ⟨hfirst, hnames, rfl⟩ := compile_ok hc
  refine evalIn_eq_eval_replaceLiterals hfirst (fun i ↦ rfl) ?_
  rw [values_eq_map_names, List.length_map, hnames, length_parameterNames, List.length_map]
  exact Nat.le_add_left _ _

end

end CompiledTool

/-- **A compiled tool means its program with the leaves replaced by the arguments.** It has one
parameter for each leaf, and their names are all different. A call without positional arguments
whose named arguments are those of the parameters does what evaluating the program does in which
the literals are replaced by the arguments: it gives the same value in the same state after the same
tool calls, and fails because of a fault exactly when the evaluation has that fault, being called
off excepted, which is no fault and is passed on. Any other call is refused and calls no tool. So a
call with the leaves' own literals, in any order, agrees with the evaluation of the program. -/
theorem apply_eq_run_replaceLiterals {σ : Type} {p : Provider σ} {t : Tree} {c : CompiledTool}
    {s₀ s₁ : σ} (h : compile p t s₀ = (.ok c, s₁)) :
    c.names.length = t.leaves.length ∧ c.names.Nodup ∧
    (∀ arguments, c.Matches arguments →
      c.apply p [] arguments =
        (run p (t.replaceLiterals (c.values arguments))).failingAs (CallFault.ofEval c.name) ∧
      ∀ s e, (c.apply p [] arguments s).result = .error (.execution c.name e) ↔
        (run p (t.replaceLiterals (c.values arguments)) s).result = .error e ∧
          e ≠ .raised .cancelled) ∧
    (∀ positional arguments, ¬ (positional = [] ∧ c.Matches arguments) → ∀ s,
      c.apply p positional arguments s = ⟨.error (.binding c.name), s, []⟩) ∧
    ∀ arguments, arguments.Perm (c.names.zip (t.leaves.map Prod.snd)) →
      c.apply p [] arguments = (run p t).failingAs (CallFault.ofEval c.name) := by
  obtain ⟨-, hnames, -⟩ := compile_ok h
  have hlen : c.names.length = t.leaves.length := by
    rw [hnames, length_parameterNames, List.length_map, List.length_nil, Nat.zero_add]
  have hnodup : c.names.Nodup := by
    rw [hnames]
    exact nodup_parameterNames List.nodup_nil _
  have happly : ∀ arguments, c.Matches arguments → c.apply p [] arguments =
      (run p (t.replaceLiterals (c.values arguments))).failingAs (CallFault.ofEval c.name) := by
    intro arguments hm
    rw [CompiledTool.apply_of_matches p hm, CompiledTool.evalIn_body h p]
  refine ⟨hlen, hnodup, fun arguments hm ↦ ⟨happly arguments hm, fun s e ↦ ?_⟩,
    fun positional arguments hm s ↦ CompiledTool.apply_of_not_matches p hm s, ?_⟩
  · rw [happly arguments hm, Effect.failingAs]
    cases hr : (run p (t.replaceLiterals (c.values arguments)) s).result with
    | ok v => exact ⟨nofun, nofun⟩
    | error e' =>
      show Except.error (CallFault.ofEval c.name e') = _ ↔ _
      rw [Except.error.injEq, Except.error.injEq, CallFault.ofEval_eq_execution_iff]
  · intro arguments hperm
    obtain ⟨hm, hvalues⟩ := CompiledTool.values_of_perm hnodup (by rw [hlen, List.length_map]) hperm
    rw [happly arguments hm, hvalues, Node.replaceLiterals_literals]

/-- Adding and comparing numbers. -/
def comparing : Toolbox where
  tools := [⟨"add", SmallTool.metadataOf "add" [("a", some "integer"), ("b", none)], .sum⟩,
    ⟨"gt", SmallTool.metadataOf "gt" [("a", none), ("b", none)], .gt⟩]
  lookUp := .direct

/-- A program with leaves of the same names in a choice and in a nested program. -/
def chosenSum (a a₂ b a₃ b₂ : Value) : Tree :=
  .program ⟨.single, some "chosen", some "Adds what is chosen."⟩ [
    .call "add" [.value "a" a,
      .cond (.call "gt" [.value "a" a₂, .value "b" b])
        (.program ⟨.single, none, none⟩ [.call "add" [.value "a" a₃, .value "b" b₂]]) none]]

theorem apply_eq_run_replaceLiterals_chosenSum :
    ∃ c, compile comparing.provider (chosenSum (.int 1) (.int 5) (.int 3) .null (.int 2)) none =
        (.ok c, none) ∧
      c.names = ["a", "a_2", "b", "a_3", "b_2"] ∧
      c.apply comparing.provider [] [("b_2", .int 7), ("a", .null), ("a_2", .int 9), ("b", .int 4),
          ("a_3", .int 8)] =
        (run comparing.provider (chosenSum .null (.int 9) (.int 4) (.int 8) (.int 7))).failingAs
          (CallFault.ofEval "chosen") := by
  have hc : ∃ c, compile comparing.provider
      (chosenSum (.int 1) (.int 5) (.int 3) .null (.int 2)) none = (.ok c, none) ∧
      c.name = "chosen" ∧ c.names = ["a", "a_2", "b", "a_3", "b_2"] :=
    ⟨_, by cbv, by cbv, by cbv⟩
  obtain ⟨c, hc, hname, hnames⟩ := hc
  have hm : c.Matches [("b_2", .int 7), ("a", .null), ("a_2", .int 9), ("b", .int 4),
      ("a_3", .int 8)] := by
    intro name
    rw [hnames]
    simp only [List.map_cons, List.map_nil, List.mem_cons, List.not_mem_nil]
    grind
  refine ⟨c, hc, hnames, ?_⟩
  have happly := ((apply_eq_run_replaceLiterals hc).2.2.1 _ hm).1
  rw [happly, hname, CompiledTool.values_eq_map_names, hnames]
  rfl

end CallTree
