import CallTree.Proofs.Discovery
import CallTree.Proofs.Effects

/-!
# The registry of a session is filled once

A server that always offers the same tools is asked for them over a session, through operations in
any order: listings, lookups and calls of tools, which may all fail. The registry of the provider is
empty until the first listing or lookup. If the metadata of every tool is well formed, that
operation fills it with all tools at once, and the server is never asked again. If the metadata of
one tool is malformed, nothing of the others is kept: the registry stays empty, and each listing or
lookup asks the server once more. Calls of tools have no part in this.

How often the server is asked is counted by the server itself (`counting`). One operation is
described by what it leaves in the registry and adds to the count (`perform_counting_of_filled`,
`perform_counting_of_empty`), and a sequence of operations by induction from that.
-/

namespace CallTree

variable {τ δ : Type}

/-! ## Complete registries -/

namespace Registry

/-- A registry of all tools that a server offers. Each name that is offered stands in it once, with
the normalised metadata of a tool of that name; tools with distinct names stand in it in the order
in which they are offered. -/
structure Complete (tools : List OfferedTool) (r : Registry Definition) : Prop where
  distinct : (r.map Prod.fst).Nodup
  names : ∀ name, name ∈ r.map Prod.fst ↔ name ∈ tools.map OfferedTool.name
  definitions : ∀ e ∈ r, ∃ t ∈ tools, t.name = e.1 ∧ t.definition = .ok e.2
  inOrder : (tools.map OfferedTool.name).Nodup → tools.mapM OfferedTool.definition = .ok r.tools

end Registry

/-! ## Counting -/

/-- An operation has to know the tools. -/
def Operation.needsTools : Operation → Bool
  | .list => true
  | .define _ => true
  | .invoke _ _ => false

theorem mapM_eq_ok_iff_forall₂ {ε α β : Type} {f : α → Except ε β} {xs : List α} {ys : List β} :
    xs.mapM f = .ok ys ↔ List.Forall₂ (fun x y ↦ f x = .ok y) xs ys := by
  induction xs generalizing ys with
  | nil =>
    rw [List.mapM_nil, List.forall₂_nil_left_iff]
    exact ⟨fun h ↦ (Except.ok.inj h).symm, fun h ↦ congrArg Except.ok h.symm⟩
  | cons x xs ih =>
    rw [List.mapM_cons, List.forall₂_cons_left_iff]
    constructor
    · intro h
      obtain ⟨y, hy, h⟩ := except_bind_eq_ok_iff.mp h
      obtain ⟨rest, hrest, h⟩ := except_bind_eq_ok_iff.mp h
      exact ⟨y, rest, hy, ih.mp hrest, (Except.ok.inj h).symm⟩
    · rintro ⟨y, rest, hy, hrest, rfl⟩
      rw [hy, ih.mpr hrest]
      rfl

namespace Session

/-- What operations leave behind that are performed over a new session. -/
def stateAfter (x : Session τ) (server : τ) (ops : List Operation) : SessionState (τ × Nat) :=
  (x.counting.provider.performAll ops { server := (server, 0) }).2

/-- How often the server has been asked for its tools after some operations. -/
def timesAsked (x : Session τ) (server : τ) (ops : List Operation) : Nat :=
  (x.stateAfter server ops).server.2

/-- The registry that is filled from the tools of a server, if the metadata of all of them is well
formed. -/
def found (tools : List OfferedTool) : Option (Registry Definition) :=
  match tools.mapM OfferedTool.definition with
  | .ok ds => some (registryOf ds)
  | .error _ => none

theorem found_eq_some {tools : List OfferedTool} {r : Registry Definition}
    (h : found tools = some r) : r.Complete tools := by
  rw [found] at h
  split at h
  · next ds hds =>
    obtain rfl := Option.some.inj h
    have hnames : ds.map Definition.name = tools.map OfferedTool.name := (definition_spec hds).1
    obtain ⟨hdistinct, hmem, hkeys⟩ := Registry.ofList_spec (ds.map fun d ↦ (d.name, d))
    refine ⟨hdistinct, fun name ↦ ?_, fun e he ↦ ?_, fun hnodup ↦ ?_⟩
    · rw [registryOf, hkeys, List.map_map, ← hnames]
      rfl
    · obtain ⟨d, hd, rfl⟩ := List.mem_map.mp (hmem e he)
      obtain ⟨i, hi, rfl⟩ := List.mem_iff_getElem.mp hd
      have hforall := mapM_eq_ok_iff_forall₂.mp hds
      have hi' : i < tools.length := by rwa [hforall.length_eq]
      have hdefinition : tools[i].definition = .ok ds[i] := hforall.get hi' hi
      exact ⟨tools[i], List.getElem_mem hi', (Definition.name_of_ofValue hdefinition).symm,
        hdefinition⟩
    · rw [hds, tools_registryOf (hnames ▸ hnodup)]
  · cases h

theorem isSome_found_iff {tools : List OfferedTool} :
    (found tools).isSome ↔ ∀ t ∈ tools, ∃ d, t.definition = .ok d := by
  rw [found]
  constructor
  · intro h
    split at h
    · next ds hds =>
      intro t ht
      obtain ⟨i, hi, rfl⟩ := List.mem_iff_getElem.mp ht
      have hforall := mapM_eq_ok_iff_forall₂.mp hds
      have hi' : i < ds.length := by rwa [← hforall.length_eq]
      exact ⟨ds[i], hforall.get hi hi'⟩
    · cases h
  · intro h
    have hex : ∃ ds, List.Forall₂ (fun t d ↦ OfferedTool.definition t = .ok d) tools ds := by
      induction tools with
      | nil => exact ⟨[], .nil⟩
      | cons t tools ih =>
        obtain ⟨⟨d, hd⟩, hrest⟩ := List.forall_mem_cons.mp h
        obtain ⟨ds, hds⟩ := ih hrest
        exact ⟨d :: ds, .cons hd hds⟩
    obtain ⟨ds, hds⟩ := hex
    rw [mapM_eq_ok_iff_forall₂.mpr hds]
    rfl

/-! ## One operation -/

section

variable {x : Session τ} {tools : List OfferedTool} {s : SessionState (τ × Nat)}

theorem asked_invoke (tool : String) (args : List (String × Value)) :
    (x.counting.invoke tool args s).2.server.2 = s.server.2 := by
  have hrun : (x.counting.run tool args s.server).2.2 = s.server.2 := rfl
  rw [invoke]
  split
  · next h => rw [h] at hrun; exact hrun
  · next h => rw [h] at hrun; exact hrun

/-- An operation that finds the tools known asks for nothing and changes nothing in the registry. -/
theorem perform_counting_of_filled {r : Registry Definition} (hs : s.registry = some r)
    (op : Operation) : (x.counting.provider.perform op s).2.registry = some r ∧
      (x.counting.provider.perform op s).2.server.2 = s.server.2 := by
  cases op with
  | list =>
    rw [perform_list, list_of_filled hs]
    exact ⟨hs, rfl⟩
  | define name =>
    have hmetadata : metadata s = some (r.map fun e ↦ (e.1, e.2.toValue)) := by
      rw [metadata, hs, Option.map_some]
    have hstate : (x.counting.provider.define name s).2 = s :=
      (@lookUp_of_registry _ metadata x.counting.list s _ hmetadata name).1
    rw [Provider.perform, hstate]
    exact ⟨hs, rfl⟩
  | invoke tool args =>
    exact ⟨(registry_invoke tool args).trans hs, asked_invoke tool args⟩

theorem discover_counting (hfixed : ∀ server, (x.tools server).1 = .ok tools) (server : τ × Nat) :
    x.counting.discover server =
      ((tools.mapM OfferedTool.definition).mapError .definition,
        ((x.tools server.1).2, server.2 + 1)) := by
  have htools : x.counting.tools server = (.ok tools, ((x.tools server.1).2, server.2 + 1)) := by
    rw [← hfixed server.1]
    rfl
  rw [discover, htools]

/-- A listing that finds no tools known asks for them, and keeps none of them or all. -/
theorem list_counting_of_empty (hfixed : ∀ server, (x.tools server).1 = .ok tools)
    (hs : s.registry = none) : ∃ s', s'.server.2 = s.server.2 + 1 ∧
      ((∃ e, x.counting.list s = (.error e, s') ∧ s'.registry = none ∧ found tools = none) ∨
      ∃ listed r, x.counting.list s = (.ok listed, s') ∧ s'.registry = some r ∧
        found tools = some r) := by
  have hdiscover := discover_counting hfixed s.server
  rcases list_of_empty (x := x.counting) hs with ⟨e, he, hlist⟩ | ⟨ds, hds, hlist⟩
  · rw [hdiscover] at he hlist
    obtain ⟨f, hf, -⟩ := Effect.mapError_eq_error_iff.mp he
    exact ⟨_, rfl, Or.inl ⟨e, hlist, rfl, by rw [found, hf]⟩⟩
  · rw [hdiscover] at hds hlist
    have hall := Effect.mapError_eq_ok_iff.mp hds
    exact ⟨_, rfl, Or.inr ⟨_, registryOf ds, hlist, rfl, by rw [found, hall]⟩⟩

/-- An operation that finds no tools known asks for them if it needs them, and then the registry
holds all of them or is still empty. -/
theorem perform_counting_of_empty (hfixed : ∀ server, (x.tools server).1 = .ok tools)
    (hs : s.registry = none) (op : Operation) :
    (x.counting.provider.perform op s).2.registry =
        (if op.needsTools then found tools else none) ∧
      (x.counting.provider.perform op s).2.server.2 =
        s.server.2 + (if op.needsTools then 1 else 0) := by
  obtain ⟨s', hasked, hlist⟩ := list_counting_of_empty hfixed hs
  cases op with
  | list =>
    rw [perform_list]
    rcases hlist with ⟨e, hlist, hs', hfound⟩ | ⟨listed, r, hlist, hs', hfound⟩
    · rw [hlist, hfound]
      exact ⟨hs', hasked⟩
    · rw [hlist, hfound]
      exact ⟨hs', hasked⟩
  | define name =>
    rcases hlist with ⟨e, hlist, hs', hfound⟩ | ⟨listed, r, hlist, hs', hfound⟩
    · rw [Provider.perform, define_of_list_error hs hlist, hfound]
      exact ⟨hs', hasked⟩
    · -- the tool is looked up in the registry that was just filled
      rw [Provider.perform, define_of_list_ok hs hlist hs', hfound]
      obtain ⟨hkept, hcount⟩ := perform_counting_of_filled (x := x) hs' (.define name)
      exact ⟨hkept, hcount.trans hasked⟩
  | invoke tool args =>
    exact ⟨(registry_invoke tool args).trans hs, asked_invoke tool args⟩

/-! ## All operations -/

theorem performAll_counting_of_filled {r : Registry Definition} (hs : s.registry = some r)
    (ops : List Operation) : (x.counting.provider.performAll ops s).2.registry = some r ∧
      (x.counting.provider.performAll ops s).2.server.2 = s.server.2 := by
  induction ops generalizing s with
  | nil => exact ⟨hs, rfl⟩
  | cons op ops ih =>
    obtain ⟨hregistry, hasked⟩ := perform_counting_of_filled (x := x) hs op
    obtain ⟨hregistries, haskeds⟩ := ih hregistry
    exact ⟨hregistries, haskeds.trans hasked⟩

/-- The number of times that operations ask a server for its tools, over an empty registry. -/
def asks (tools : List OfferedTool) (ops : List Operation) : Nat :=
  if (found tools).isSome then (if ops.any Operation.needsTools then 1 else 0)
  else ops.countP Operation.needsTools

/-- Operations over an empty registry fill it with all tools if one of them needs the tools and all
of these are well formed; otherwise it is as empty as before. -/
theorem performAll_counting_of_empty (hfixed : ∀ server, (x.tools server).1 = .ok tools)
    (hs : s.registry = none) (ops : List Operation) :
    (x.counting.provider.performAll ops s).2.registry =
        (if ops.any Operation.needsTools then found tools else none) ∧
      (x.counting.provider.performAll ops s).2.server.2 = s.server.2 + asks tools ops := by
  induction ops generalizing s with
  | nil =>
    refine ⟨hs, ?_⟩
    rw [asks, List.any_nil, List.countP_nil]
    simp [Provider.performAll]
  | cons op ops ih =>
    obtain ⟨hregistry, hasked⟩ := perform_counting_of_empty hfixed hs op
    rw [Provider.performAll]
    by_cases hneeds : op.needsTools = true
    · rw [if_pos hneeds] at hregistry hasked
      cases hfound : found tools with
      | some r =>
        -- from here on the registry is filled
        rw [hfound] at hregistry
        obtain ⟨hregistries, haskeds⟩ := performAll_counting_of_filled (x := x) hregistry ops
        refine ⟨hregistries.trans (by simp [hneeds]), ?_⟩
        rw [haskeds, hasked, asks, hfound]
        simp [hneeds]
      | none =>
        rw [hfound] at hregistry
        obtain ⟨hregistries, haskeds⟩ := ih hregistry
        refine ⟨hregistries.trans (by simp [hfound]), ?_⟩
        rw [haskeds, hasked, asks, asks, hfound]
        simp [hneeds]
        omega
    · rw [if_neg hneeds] at hregistry hasked
      obtain ⟨hregistries, haskeds⟩ := ih hregistry
      refine ⟨hregistries.trans (by simp [hneeds]), ?_⟩
      rw [haskeds, hasked, asks, asks]
      simp [hneeds]

end

section

variable {x : Session τ} {tools : List OfferedTool}

theorem registry_stateAfter (hfixed : ∀ server, (x.tools server).1 = .ok tools) (server : τ)
    (ops : List Operation) : (x.stateAfter server ops).registry =
      if ops.any Operation.needsTools then found tools else none :=
  (performAll_counting_of_empty (s := { server := (server, 0) }) hfixed rfl ops).1

theorem timesAsked_eq_asks (hfixed : ∀ server, (x.tools server).1 = .ok tools) (server : τ)
    (ops : List Operation) : x.timesAsked server ops = asks tools ops := by
  have h := (performAll_counting_of_empty (s := { server := (server, 0) }) hfixed rfl ops).2
  rwa [Nat.zero_add] at h

theorem registry_stateAfter_append (server : τ) {before : List Operation} {r : Registry Definition}
    (h : (x.stateAfter server before).registry = some r) (after : List Operation) :
    (x.stateAfter server (before ++ after)).registry = some r := by
  rw [stateAfter, Provider.performAll_append]
  exact (performAll_counting_of_filled h after).1

end

/-- **The registry is filled at once, and once.** A server always offers the same tools. Whatever
operations are performed over a new session, the registry is then empty or holds all tools, and once
it is filled no further operation changes it. If the metadata of all tools is well formed, the first
operation that needs the tools fills it, and they are asked for just this once. If the metadata of
one is malformed, the registry is always empty, and each operation that needs the tools asks for
them once. A call of a tool never asks for them. -/
theorem registry_filled_once (x : Session τ) {tools : List OfferedTool}
    (hfixed : ∀ server, (x.tools server).1 = .ok tools) (server : τ) :
    (∀ ops, (x.stateAfter server ops).registry = none ∨
      ∃ r, (x.stateAfter server ops).registry = some r ∧ r.Complete tools) ∧
    (∀ before after r, (x.stateAfter server before).registry = some r →
      (x.stateAfter server (before ++ after)).registry = some r) ∧
    ((∀ t ∈ tools, ∃ d, t.definition = .ok d) → ∀ ops,
      ((x.stateAfter server ops).registry.isSome ↔ ∃ op ∈ ops, op.needsTools) ∧
      x.timesAsked server ops = if ∃ op ∈ ops, op.needsTools then 1 else 0) ∧
    ((∃ t ∈ tools, ∃ e, t.definition = .error e) → ∀ ops,
      (x.stateAfter server ops).registry = none ∧
      x.timesAsked server ops = ops.countP Operation.needsTools) ∧
    ∀ ops tool args,
      x.timesAsked server (ops ++ [.invoke tool args]) = x.timesAsked server ops := by
  refine ⟨fun ops ↦ ?_, fun before after r h ↦ registry_stateAfter_append server h after,
    fun hwell ops ↦ ?_, fun hmalformed ops ↦ ?_, fun ops tool args ↦ ?_⟩
  · rw [registry_stateAfter hfixed]
    by_cases hneeds : ops.any Operation.needsTools = true
    · rw [if_pos hneeds]
      cases hfound : found tools with
      | none => exact Or.inl rfl
      | some r => exact Or.inr ⟨r, rfl, found_eq_some hfound⟩
    · exact Or.inl (if_neg hneeds)
  · have hfound : (found tools).isSome = true := isSome_found_iff.mpr hwell
    rw [registry_stateAfter hfixed, timesAsked_eq_asks hfixed, asks, if_pos hfound]
    by_cases hneeds : ops.any Operation.needsTools = true
    · rw [if_pos hneeds, if_pos hneeds, if_pos (List.any_eq_true.mp hneeds)]
      exact ⟨⟨fun _ ↦ List.any_eq_true.mp hneeds, fun _ ↦ hfound⟩, rfl⟩
    · have hnone := mt List.any_eq_true.mpr hneeds
      rw [if_neg hneeds, if_neg hneeds, if_neg hnone]
      exact ⟨⟨fun h ↦ absurd h Bool.false_ne_true, fun h ↦ absurd h hnone⟩, rfl⟩
  · have hfound : found tools = none := by
      rw [← Option.not_isSome_iff_eq_none, isSome_found_iff]
      intro hwell
      obtain ⟨t, ht, e, he⟩ := hmalformed
      obtain ⟨d, hd⟩ := hwell t ht
      rw [he] at hd
      cases hd
    rw [registry_stateAfter hfixed, timesAsked_eq_asks hfixed, asks, hfound]
    exact ⟨ite_self none, if_neg Bool.false_ne_true⟩
  · rw [timesAsked, stateAfter, Provider.performAll_append]
    exact asked_invoke tool args

/-- Two tools, the second with a property that has no metadata. -/
def pingAndBroken : List OfferedTool :=
  [⟨"ping", some "Answers", .map []⟩,
    ⟨"echo", none, .record [("properties", .record [("text", .null)])]⟩]

/-- The same operations ask a server with well-formed tools once, and one with a malformed tool each
time they need a tool. -/
theorem registry_filled_once_asking :
    ((preparedSession pingAndEcho).stateAfter [] asking).registry.isSome = true ∧
    (preparedSession pingAndEcho).timesAsked [] asking = 1 ∧
    ((preparedSession pingAndBroken).stateAfter [] asking).registry = none ∧
    (preparedSession pingAndBroken).timesAsked [] asking = 4 := by
  have hwell : ∀ t ∈ pingAndEcho, ∃ d, t.definition = .ok d := by
    refine List.forall_mem_cons.mpr ⟨⟨_, by cbv⟩, List.forall_mem_singleton.mpr ⟨_, by cbv⟩⟩
  have hmalformed : ∃ t ∈ pingAndBroken, ∃ e, t.definition = .error e :=
    ⟨_, List.mem_cons_of_mem _ List.mem_cons_self, _, by cbv⟩
  have hneeds : ∃ op ∈ asking, op.needsTools := ⟨_, List.mem_cons_self, rfl⟩
  obtain ⟨-, -, hfilled, -, -⟩ :=
    registry_filled_once (preparedSession pingAndEcho) (fun _ ↦ rfl) []
  obtain ⟨-, -, -, hempty, -⟩ :=
    registry_filled_once (preparedSession pingAndBroken) (fun _ ↦ rfl) []
  obtain ⟨hregistry, hasked⟩ := hfilled hwell asking
  rw [if_pos hneeds] at hasked
  exact ⟨hregistry.mpr hneeds, hasked, hempty hmalformed asking⟩

end Session

end CallTree
