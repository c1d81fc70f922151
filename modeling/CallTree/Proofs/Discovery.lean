import CallTree.Proofs.Definitions
import CallTree.Proofs.Entries
import CallTree.Tool.Session

/-!
# One view of a server's tools

The provider over a session can be asked to list its tools, to look one up and to run one, any
number of times and in any order. What was answered gives one view of the tools if all listings are
the same list, its names are distinct, and what was looked up stands in it (`Agrees`).

A registry that is filled is never changed again, and every answer is taken from it
(`perform_of_filled`). An operation that finds it empty either leaves it empty, and then nothing was
listed or looked up, or fills it (`perform_of_empty`). Of these only the listing is not answered
from the registry: it gives the tools as the server offered them. So the answers give one view
exactly if the listing that fills the registry, if there is one, finds distinct names
(`session_agrees_iff`).
-/

namespace CallTree

variable {σ τ δ : Type}

/-- The names of a registry are distinct and those of its tools, and it holds nothing that was not
put in. -/
theorem Registry.ofList_spec (tools : List (String × δ)) :
    ((ofList tools).map Prod.fst).Nodup ∧ (∀ e ∈ ofList tools, e ∈ tools) ∧
      ∀ name, name ∈ (ofList tools).map Prod.fst ↔ name ∈ tools.map Prod.fst :=
  Entries.ofPairs_spec Entries.tells_beq fun _ _ ↦ trivial

/-! ## Operations -/

/-- An operation of a provider. -/
inductive Operation where
  | list
  | define (name : String)
  | invoke (tool : String) (args : List (String × Value))

/-- An operation that was performed, with what came of it. -/
inductive Performed where
  | listed (result : Except Fault (List Value))
  | defined (name : String) (result : Except Fault Value)
  | invoked (tool : String) (result : Except Fault Value)

namespace Provider

/-- Performs an operation. -/
def perform (p : Provider σ) : Operation → σ → Performed × σ
  | .list, s => (.listed (p.list s).1, (p.list s).2)
  | .define name, s => (.defined name (p.define name s).1, (p.define name s).2)
  | .invoke tool args, s => (.invoked tool (p.invoke tool args s).1, (p.invoke tool args s).2)

/-- Performs operations one after another. -/
def performAll (p : Provider σ) : List Operation → σ → List Performed × σ
  | [], s => ([], s)
  | op :: ops, s =>
    ((p.perform op s).1 :: (p.performAll ops (p.perform op s).2).1,
      (p.performAll ops (p.perform op s).2).2)

theorem performAll_append (p : Provider σ) (before after : List Operation) (s : σ) :
    p.performAll (before ++ after) s =
      ((p.performAll before s).1 ++ (p.performAll after (p.performAll before s).2).1,
        (p.performAll after (p.performAll before s).2).2) := by
  induction before generalizing s with
  | nil => rfl
  | cons op before ih => simp only [List.cons_append, performAll, ih]

end Provider

/-- What was performed fits a view of the tools: a listing gives all of them, and looking a tool up
gives the one of that name. Failures fit every view, and so does whatever running a tool gives. -/
def Performed.Fits (view : List Definition) : Performed → Prop
  | .listed (.ok tools) => tools = view.map Definition.toValue
  | .defined name (.ok v) => ∃ d ∈ view, d.name = name ∧ v = d.toValue
  | _ => True

/-- What was performed gives one view of the tools. -/
structure Agrees (view : List Definition) (history : List Performed) : Prop where
  distinct : (view.map Definition.name).Nodup
  fits : ∀ a ∈ history, a.Fits view

/-- Tools that are listed alike have the same names. -/
theorem names_eq_of_toValue_eq {ds ds' : List Definition}
    (h : ds.map Definition.toValue = ds'.map Definition.toValue) :
    ds.map Definition.name = ds'.map Definition.name := by
  have hname : ∀ d : Definition, d.toValue.get? "name" = some (.str d.name) := by
    intro d
    simp [Definition.toValue, Value.record, Value.get?, Value.entry?]
  have hget := congrArg (List.map fun v : Value ↦ v.get? "name") h
  simp only [List.map_map, Function.comp_def, hname] at hget
  have hinj : Function.Injective fun s : String ↦ some (Value.str s) := by
    intro s t hst
    exact Value.str.inj (Option.some.inj hst)
  refine List.map_injective_iff.mpr hinj ?_
  rw [List.map_map, List.map_map]
  exact hget

/-! ## The registry of a session -/

/-- A registry as discovery leaves it: the names are distinct, each tool stands under its own name,
and its definition is normal. -/
structure Registry.Normal (r : Registry Definition) : Prop where
  distinct : (r.map Prod.fst).Nodup
  named : ∀ e ∈ r, e.2.name = e.1
  normal : ∀ e ∈ r, Definition.ofValue (some e.1) e.2.toValue = .ok e.2

theorem Registry.Normal.nodup_names {r : Registry Definition} (hr : r.Normal) :
    (r.tools.map Definition.name).Nodup := by
  have hnames : r.tools.map Definition.name = r.map Prod.fst := by
    rw [Registry.tools, List.map_map]
    exact List.map_congr_left hr.named
  rw [hnames]
  exact hr.distinct

namespace Session

variable {x : Session τ} {s : SessionState τ}

theorem definition_spec {tools : List OfferedTool} {ds : List Definition}
    (h : tools.mapM OfferedTool.definition = .ok ds) :
    ds.map Definition.name = tools.map OfferedTool.name ∧
      ∀ d ∈ ds, Definition.ofValue (some d.name) d.toValue = .ok d := by
  induction tools generalizing ds with
  | nil =>
    cases h
    exact ⟨rfl, fun d hd ↦ absurd hd List.not_mem_nil⟩
  | cons t tools ih =>
    rw [List.mapM_cons] at h
    obtain ⟨d, hd, h⟩ := except_bind_eq_ok_iff.mp h
    obtain ⟨rest, hrest, h⟩ := except_bind_eq_ok_iff.mp h
    cases h
    obtain ⟨hnames, hnormal⟩ := ih hrest
    have hname : d.name = t.name := Definition.name_of_ofValue hd
    refine ⟨by rw [List.map_cons, List.map_cons, hname, hnames], ?_⟩
    refine List.forall_mem_cons.mpr ⟨Definition.ofValue_toValue hd ?_, hnormal⟩
    exact fun e he ↦ (Option.some.inj he).symm

/-- What discovery finds are tools that the server offered, all of them normalised. -/
theorem discover_eq_ok {server : τ} {ds : List Definition}
    (h : (x.discover server).1 = .ok ds) :
    ∃ tools, (x.tools server).1 = .ok tools ∧ tools.mapM OfferedTool.definition = .ok ds := by
  rw [discover] at h
  split at h
  · next tools server' htools =>
    refine ⟨tools, by rw [htools], ?_⟩
    cases hds : tools.mapM OfferedTool.definition with
    | ok ds' =>
      rw [hds] at h
      exact congrArg Except.ok (Except.ok.inj h)
    | error e =>
      rw [hds] at h
      cases h
  · cases h

theorem normal_registryOf {server : τ} {ds : List Definition}
    (h : (x.discover server).1 = .ok ds) : (registryOf ds).Normal := by
  obtain ⟨tools, -, hds⟩ := discover_eq_ok h
  obtain ⟨-, hnormal⟩ := definition_spec hds
  obtain ⟨hnodup, hmem, -⟩ := Registry.ofList_spec (ds.map fun d ↦ (d.name, d))
  have hof : ∀ e ∈ registryOf ds, ∃ d ∈ ds, (d.name, d) = e :=
    fun e he ↦ List.mem_map.mp (hmem e he)
  refine ⟨hnodup, fun e he ↦ ?_, fun e he ↦ ?_⟩
  · obtain ⟨d, -, rfl⟩ := hof e he
    rfl
  · obtain ⟨d, hd, rfl⟩ := hof e he
    exact hnormal d hd

/-- Where the names are distinct, the registry holds the tools as they were found. -/
theorem tools_registryOf {ds : List Definition} (h : (ds.map Definition.name).Nodup) :
    (registryOf ds).tools = ds := by
  have hkeys : ((ds.map fun d ↦ (d.name, d)).map Prod.fst).Nodup := by
    rwa [List.map_map]
  rw [registryOf, Registry.ofList,
    Entries.ofPairs_of_nodup Entries.tells_beq (fun _ _ ↦ trivial) hkeys, Registry.tools,
    List.map_map]
  exact List.map_id ds

/-! ## One operation -/

theorem list_of_filled {r : Registry Definition} (hs : s.registry = some r) :
    x.list s = (.ok (r.tools.map Definition.toValue), s) := by
  rw [list, definitions, hs]

theorem list_of_empty (hs : s.registry = none) :
    (∃ e, (x.discover s.server).1 = .error e ∧
      x.list s = (.error e, ⟨none, (x.discover s.server).2⟩)) ∨
    ∃ ds, (x.discover s.server).1 = .ok ds ∧
      x.list s = (.ok (ds.map Definition.toValue),
        ⟨some (registryOf ds), (x.discover s.server).2⟩) := by
  rw [list, definitions, hs]
  rcases hdiscover : x.discover s.server with ⟨e | ds, server⟩
  · exact Or.inl ⟨e, rfl, rfl⟩
  · exact Or.inr ⟨ds, rfl, rfl⟩

theorem perform_list (x : Session τ) (s : SessionState τ) :
    x.provider.perform .list s = (.listed (x.list s).1, (x.list s).2) := rfl

theorem registry_invoke (tool : String) (args : List (String × Value)) :
    (x.invoke tool args s).2.registry = s.registry := by
  rw [invoke]
  split <;> rfl

/-- A tool that is looked up in a filled registry is the one that stands there under the name. -/
theorem define_of_filled {r : Registry Definition} (hs : s.registry = some r) (hr : r.Normal)
    (name : String) : (x.provider.define name s).2 = s ∧
      (Performed.defined name (x.provider.define name s).1).Fits r.tools := by
  have hmetadata : metadata s = some (r.map fun e ↦ (e.1, e.2.toValue)) := by
    rw [metadata, hs, Option.map_some]
  obtain ⟨hstate, hfound⟩ := @lookUp_of_registry _ metadata x.list s _ hmetadata name
  refine ⟨hstate, ?_⟩
  cases hresult : (x.provider.define name s).1 with
  | error e => trivial
  | ok v =>
    obtain ⟨raw, d, hlookup, hd, rfl⟩ := hfound v hresult
    obtain ⟨before, after, hmap, -⟩ := List.lookup_eq_some_iff.mp hlookup
    have hmem : (name, raw) ∈ r.map fun e ↦ (e.1, e.2.toValue) := by
      rw [hmap]
      exact List.mem_append_right _ List.mem_cons_self
    obtain ⟨e, he, heq⟩ := List.mem_map.mp hmem
    obtain ⟨rfl, rfl⟩ := Prod.mk.inj heq
    rw [hr.normal e he] at hd
    cases hd
    exact ⟨e.2, List.mem_map_of_mem he, hr.named e he, rfl⟩

theorem isSome_metadata (s : SessionState τ) : (metadata s).isSome = s.registry.isSome := by
  rw [metadata, Option.isSome_map]

/-- Before a tool is looked up in an empty registry, the tools are listed, which may fail. -/
theorem define_of_list_error {e : Fault} {s' : SessionState τ} (hs : s.registry = none)
    (hlist : x.list s = (.error e, s')) (name : String) :
    x.provider.define name s = (.error e, s') := by
  simp only [provider, lookUp, ensureListed, isSome_metadata, hs, hlist]
  rfl

/-- If it does not, the tool is looked up in what was found. -/
theorem define_of_list_ok {tools : List Value} {s' : SessionState τ} {r : Registry Definition}
    (hs : s.registry = none) (hlist : x.list s = (.ok tools, s')) (hs' : s'.registry = some r)
    (name : String) : x.provider.define name s = x.provider.define name s' := by
  simp only [provider, lookUp, ensureListed, isSome_metadata, hs, hs', hlist]
  rfl

/-- An operation that finds the tools known leaves them as they are, and what comes of it fits
them. -/
theorem perform_of_filled {r : Registry Definition} (hs : s.registry = some r) (hr : r.Normal)
    (op : Operation) : (x.provider.perform op s).2.registry = some r ∧
      (x.provider.perform op s).1.Fits r.tools := by
  cases op with
  | list =>
    rw [perform_list, list_of_filled hs]
    exact ⟨hs, rfl⟩
  | define name =>
    obtain ⟨hstate, hfits⟩ := define_of_filled (x := x) hs hr name
    exact ⟨by rw [Provider.perform, hstate]; exact hs, hfits⟩
  | invoke tool args => exact ⟨(registry_invoke tool args).trans hs, trivial⟩

/-- An operation that finds no tools known either leaves it so, and then nothing came of it that
speaks of tools, or it has found some. A listing then gives them as they were found, and looking one
up gives what the registry holds of them. -/
theorem perform_of_empty (hs : s.registry = none) (op : Operation) :
    ((x.provider.perform op s).2.registry = none ∧
      ∀ view, (x.provider.perform op s).1.Fits view) ∨
    ∃ ds, (x.discover s.server).1 = .ok ds ∧
      (x.provider.perform op s).2.registry = some (registryOf ds) ∧
      ((op = .list ∧
        (x.provider.perform op s).1 = .listed (.ok (ds.map Definition.toValue))) ∨
      (op ≠ .list ∧ (x.provider.perform op s).1.Fits (registryOf ds).tools)) := by
  cases op with
  | list =>
    rcases list_of_empty (x := x) hs with ⟨e, -, hlist⟩ | ⟨ds, hds, hlist⟩
    · rw [perform_list, hlist]
      exact Or.inl ⟨rfl, fun _ ↦ trivial⟩
    · rw [perform_list, hlist]
      exact Or.inr ⟨ds, hds, rfl, Or.inl ⟨rfl, rfl⟩⟩
  | define name =>
    simp only [Provider.perform]
    rcases list_of_empty (x := x) hs with ⟨e, -, hlist⟩ | ⟨ds, hds, hlist⟩
    · rw [define_of_list_error hs hlist]
      exact Or.inl ⟨rfl, fun _ ↦ trivial⟩
    · rw [define_of_list_ok hs hlist rfl]
      obtain ⟨hstate, hfits⟩ := define_of_filled (x := x)
        (s := ⟨some (registryOf ds), (x.discover s.server).2⟩) rfl
        (normal_registryOf hds) name
      refine Or.inr ⟨ds, hds, by rw [hstate], Or.inr ⟨?_, hfits⟩⟩
      rintro ⟨⟩
  | invoke tool args =>
    exact Or.inl ⟨(registry_invoke tool args).trans hs, fun _ ↦ trivial⟩

/-! ## All operations -/

theorem performAll_of_filled {r : Registry Definition} (hs : s.registry = some r) (hr : r.Normal)
    (ops : List Operation) : ∀ a ∈ (x.provider.performAll ops s).1, a.Fits r.tools := by
  induction ops generalizing s with
  | nil => exact fun a ha ↦ absurd ha List.not_mem_nil
  | cons op ops ih =>
    obtain ⟨hnext, hfits⟩ := perform_of_filled (x := x) hs hr op
    exact List.forall_mem_cons.mpr ⟨hfits, ih hnext⟩

/-- The registry that operations leave behind is one of tools that were discovered. -/
theorem normal_of_performAll (hs : ∀ r, s.registry = some r → r.Normal) (ops : List Operation) :
    ∀ r, (x.provider.performAll ops s).2.registry = some r → r.Normal := by
  induction ops generalizing s with
  | nil => exact hs
  | cons op ops ih =>
    refine ih (s := (x.provider.perform op s).2) fun r hr ↦ ?_
    cases hregistry : s.registry with
    | some r' =>
      have hnormal := hs r' hregistry
      rw [(perform_of_filled hregistry hnormal op).1] at hr
      exact Option.some.inj hr ▸ hnormal
    | none =>
      rcases perform_of_empty (x := x) hregistry op with ⟨hnone, -⟩ | ⟨ds, hds, hsome, -⟩
      · rw [hnone] at hr
        cases hr
      · rw [hsome] at hr
        exact Option.some.inj hr ▸ normal_registryOf hds

/-- A listing that finds no tools known finds tools with distinct names, if any. -/
def FindsDistinct (x : Session τ) (s : SessionState τ) (ops : List Operation) : Prop :=
  ∀ before after ds, ops = before ++ .list :: after →
    (x.provider.performAll before s).2.registry = none →
    (x.discover (x.provider.performAll before s).2.server).1 = .ok ds →
    (ds.map Definition.name).Nodup

theorem FindsDistinct.tail {op : Operation} {ops : List Operation}
    (h : x.FindsDistinct s (op :: ops)) : x.FindsDistinct (x.provider.perform op s).2 ops := by
  intro before after ds hops
  exact h (op :: before) after ds (by rw [hops, List.cons_append])

/-- If the listing that fills the registry finds distinct names, there is one view. -/
theorem exists_agrees (hs : s.registry = none) {ops : List Operation}
    (h : x.FindsDistinct s ops) : ∃ view, Agrees view (x.provider.performAll ops s).1 := by
  induction ops generalizing s with
  | nil => exact ⟨[], List.nodup_nil, fun a ha ↦ absurd ha List.not_mem_nil⟩
  | cons op ops ih =>
    rcases perform_of_empty (x := x) hs op with ⟨hnone, hfits⟩ | ⟨ds, hds, hsome, hfits⟩
    · obtain ⟨view, hdistinct, hrest⟩ := ih hnone h.tail
      exact ⟨view, hdistinct, List.forall_mem_cons.mpr ⟨hfits view, hrest⟩⟩
    · have hnormal := normal_registryOf hds
      have hrest := performAll_of_filled (x := x) hsome hnormal ops
      refine ⟨(registryOf ds).tools, hnormal.nodup_names, List.forall_mem_cons.mpr ⟨?_, hrest⟩⟩
      rcases hfits with ⟨rfl, hlisted⟩ | ⟨-, hfits⟩
      · -- only here do the names matter: the listing is the one answer not taken from the registry
        rw [hlisted, tools_registryOf (h [] ops ds rfl hs hds)]
        rfl
      · exact hfits

/-- If there is one view, the listing that fills the registry finds distinct names. -/
theorem findsDistinct_of_agrees {ops : List Operation} {view : List Definition}
    (h : Agrees view (x.provider.performAll ops s).1) : x.FindsDistinct s ops := by
  rintro before after ds rfl hs hds
  have hlisted : (Performed.listed (.ok (ds.map Definition.toValue))).Fits view := by
    refine h.fits _ ?_
    rw [Provider.performAll_append, Provider.performAll]
    refine List.mem_append_right _ (List.mem_cons.mpr (Or.inl ?_))
    rcases list_of_empty (x := x) hs with ⟨e, he, -⟩ | ⟨ds', hds', hlist⟩
    · rw [he] at hds
      cases hds
    · rw [hds] at hds'
      cases hds'
      rw [perform_list, hlist]
  have hnames := names_eq_of_toValue_eq hlisted
  rw [hnames]
  exact h.distinct

/-- **What is asked of a session gives one view of its tools**, exactly if the listing that finds
them first, if there is one, finds distinct names; so it does whenever the server never offers two
tools of one name. Whatever was offered, all that is asked once the tools are known gives one view
of what the registry holds. -/
theorem session_agrees_iff (x : Session τ) (server : τ) (ops : List Operation) :
    ((∃ view, Agrees view (x.provider.performAll ops { server := server }).1) ↔
      x.FindsDistinct { server := server } ops) ∧
    ((∀ s tools, (x.tools s).1 = .ok tools → (tools.map OfferedTool.name).Nodup) →
      ∃ view, Agrees view (x.provider.performAll ops { server := server }).1) ∧
    ∀ before after r, ops = before ++ after →
      (x.provider.performAll before { server := server }).2.registry = some r →
      Agrees r.tools
        (x.provider.performAll after (x.provider.performAll before { server := server }).2).1 := by
  refine ⟨⟨?_, exists_agrees rfl⟩, ?_, ?_⟩
  · rintro ⟨view, h⟩
    exact findsDistinct_of_agrees h
  · intro hoffered
    refine exists_agrees rfl fun before after ds _ _ hds ↦ ?_
    obtain ⟨tools, htools, hdefinitions⟩ := discover_eq_ok hds
    rw [(definition_spec hdefinitions).1]
    exact hoffered _ tools htools
  · intro before after r _ hr
    have hnormal : r.Normal :=
      normal_of_performAll (s := { server := server }) (fun _ h ↦ absurd h.symm (by rintro ⟨⟩))
        before r hr
    exact ⟨hnormal.nodup_names, performAll_of_filled hr hnormal after⟩

/-- Two tools, the second without a description. -/
def pingAndEcho : List OfferedTool :=
  [⟨"ping", some "Answers", .map []⟩,
    ⟨"echo", none, .record [("properties", .record [("text", .record [])])]⟩]

/-- What is asked of a session with two tools: a lookup that finds them, listings, a failing lookup
and a failing call. -/
def asking : List Operation :=
  [.define "echo", .list, .invoke "ping" [], .define "none", .list]

theorem session_agrees_iff_pingAndEcho :
    (∀ (s : Prepared) (tools : List OfferedTool),
      ((preparedSession pingAndEcho).tools s).1 = .ok tools →
        (tools.map OfferedTool.name).Nodup) ∧
    ∃ view, Agrees view ((preparedSession pingAndEcho).provider.performAll asking
      { server := [] }).1 := by
  have hoffered : ∀ (s : Prepared) (tools : List OfferedTool),
      ((preparedSession pingAndEcho).tools s).1 = .ok tools →
        (tools.map OfferedTool.name).Nodup := by
    intro s tools htools
    obtain rfl : pingAndEcho = tools := Except.ok.inj htools
    decide
  exact ⟨hoffered, (session_agrees_iff (preparedSession pingAndEcho) [] asking).2.1 hoffered⟩

/-- Two tools of one name. -/
def twoPings : List OfferedTool :=
  [⟨"ping", some "First", .map []⟩, ⟨"ping", some "Second", .map []⟩]

/-- The definition of a tool without parameters. -/
def pingWith (description : String) : Definition := ⟨"ping", [], some (some description)⟩

/-- **A name that is offered twice is listed twice, and then once.** -/
theorem repeated_name_listed_differently :
    ((preparedSession twoPings).provider.performAll [.list, .list, .define "ping"]
      { server := [] }).1 =
      [.listed (.ok [(pingWith "First").toValue, (pingWith "Second").toValue]),
        .listed (.ok [(pingWith "Second").toValue]),
        .defined "ping" (.ok (pingWith "Second").toValue)] ∧
    ¬ ∃ view, Agrees view ((preparedSession twoPings).provider.performAll
      [.list, .list, .define "ping"] { server := [] }).1 := by
  have hrun : ((preparedSession twoPings).provider.performAll [.list, .list, .define "ping"]
      { server := [] }).1 =
      [.listed (.ok [(pingWith "First").toValue, (pingWith "Second").toValue]),
        .listed (.ok [(pingWith "Second").toValue]),
        .defined "ping" (.ok (pingWith "Second").toValue)] := by
    cbv
  refine ⟨hrun, ?_⟩
  rintro ⟨view, h⟩
  rw [hrun] at h
  have hfirst := h.fits _ List.mem_cons_self
  have hsecond := h.fits _ (List.mem_cons_of_mem _ List.mem_cons_self)
  have hlength := congrArg List.length (hfirst.trans hsecond.symm)
  simp at hlength

end Session

end CallTree
