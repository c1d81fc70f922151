import CallTree.Proofs.Calling
import CallTree.Proofs.Discovery

/-!
# What compiling accepts and what it asks for

Compiling looks at a program and does not run it. What it accepts is a program with a name and a
description in which, however deep, no lambda and no list operation stands.

What it does to a provider is seen by a provider that writes down every operation it performs
(`recording`). Compiling with it gives the same and leaves the same state, and what was written down
are lookups of the tools that the program calls, in the order of a visit, until one fails
(`visitEach_collect_recording`). So no tool is run, and no tools are listed but by a lookup.
-/

namespace CallTree

variable {σ : Type}

/-- A provider that writes down the operations it performs. -/
def Provider.recording (p : Provider σ) : Provider (σ × List Operation) where
  list s := ((p.list s.1).1, ((p.list s.1).2, s.2 ++ [.list]))
  define name s := ((p.define name s.1).1, ((p.define name s.1).2, s.2 ++ [.define name]))
  invoke tool args s :=
    ((p.invoke tool args s.1).1, ((p.invoke tool args s.1).2, s.2 ++ [.invoke tool args]))

/-- The tool that a node calls, if it is a call. -/
def Node.tool? {α : Type} : Node α → Option String
  | .call tool _ => some tool
  | _ => none

/-- The tools that a tree calls, in the order of a visit. -/
def Node.tools {α : Type} (t : Node α) : List String := t.nodes.filterMap tool?

section

variable {p : Provider σ} {program : String}

/-- One step: a call is looked up, once, and no other node asks for anything. -/
theorem collect_recording (n : Tree) (s : σ) (log : List Operation) (c : Collected) :
    collect p.recording program n ((s, log), c) =
      ((collect p program n (s, c)).1,
        (((collect p program n (s, c)).2.1, log ++ n.tool?.toList.map .define),
          (collect p program n (s, c)).2.2)) := by
  cases n with
  | call tool args =>
    have hrecording : p.recording.define tool (s, log) =
        ((p.define tool s).1, ((p.define tool s).2, log ++ [.define tool])) := rfl
    rcases hdefine : p.define tool s with ⟨e | raw, s'⟩
    · rw [hdefine] at hrecording
      rw [collect_call_of_error hrecording, collect_call_of_error hdefine]
      rfl
    · rw [hdefine] at hrecording
      rcases hd : Definition.ofValue (some tool) raw with d | d
      · rw [collect_call_of_malformed hrecording hd, collect_call_of_malformed hdefine hd]
        rfl
      · rw [collect_call_of_ok hrecording hd, collect_call_of_ok hdefine hd]
        rfl
  | value name literal =>
    simp only [collect, Node.tool?, Option.toList_none, List.map_nil, List.append_nil]
    rcases c.leaf program name with e | c' <;> rfl
  | «over» op params tool args items =>
    cases op <;> simp [collect, Node.tool?]
  | _ => simp [collect, Node.tool?]

/-- A whole visit: the calls are looked up in their order, all of them if the visit comes to its
end. -/
theorem visitEach_collect_recording (ns : List Tree) (s : σ) (c : Collected) :
    ∃ asked, asked <+: ns.filterMap Node.tool? ∧
      ((visitEach (collect p program) ns (s, c)).1 = .ok () →
        asked = ns.filterMap Node.tool?) ∧
      ∀ log, visitEach (collect p.recording program) ns ((s, log), c) =
        ((visitEach (collect p program) ns (s, c)).1,
          (((visitEach (collect p program) ns (s, c)).2.1, log ++ asked.map .define),
            (visitEach (collect p program) ns (s, c)).2.2)) := by
  induction ns generalizing s c with
  | nil => exact ⟨[], List.prefix_refl _, fun _ ↦ rfl, fun log ↦ by simp [visitEach]⟩
  | cons n ns ih =>
    have htools : (n :: ns).filterMap Node.tool? = n.tool?.toList ++ ns.filterMap Node.tool? := by
      cases htool : n.tool? with
      | none => rw [List.filterMap_cons_none htool]; rfl
      | some tool => rw [List.filterMap_cons_some htool]; rfl
    rcases hn : collect p program n (s, c) with ⟨e | u, s', c'⟩
    · -- the visit ends here, with what this node has asked for
      refine ⟨n.tool?.toList, ?_, ?_, fun log ↦ ?_⟩
      · rw [htools]
        exact List.prefix_append _ _
      · intro h
        rw [visitEach, thenVisit, hn] at h
        cases h
      · simp only [visitEach, thenVisit, collect_recording, hn]
    · obtain ⟨asked, hasked, hall, hrun⟩ := ih s' c'
      refine ⟨n.tool?.toList ++ asked, ?_, ?_, fun log ↦ ?_⟩
      · rw [htools]
        exact (List.prefix_append_right_inj _).mpr hasked
      · intro h
        rw [visitEach, thenVisit, hn] at h
        rw [htools, hall h]
      · simp only [visitEach, thenVisit, collect_recording, hn, hrun]
        rw [List.map_append, List.append_assoc]

end

/-! ## Compiling is a visit -/

section

variable {p : Provider σ} {heading : Heading} {name description : String} {body : List Tree}
  {s s' : σ} {c : Collected}

theorem compile_of_visit_error {e : CompileFault} (hname : Text.filled? heading.name = some name)
    (hdescription : Text.filled? heading.description = some description)
    (h : visitEach (collect p name) (Node.program heading body).nodes (s, {}) =
      (.error e, (s', c))) : compile p (.program heading body) s = (.error e, s') := by
  simp only [compile, hname, hdescription, visit_eq_visitEach, h]

theorem compile_of_visit_ok (hname : Text.filled? heading.name = some name)
    (hdescription : Text.filled? heading.description = some description)
    (h : visitEach (collect p name) (Node.program heading body).nodes (s, {}) =
      (.ok (), (s', c))) : compile p (.program heading body) s =
        (.ok ⟨name, description, c.parameters, .program heading body⟩, s') := by
  simp only [compile, hname, hdescription, visit_eq_visitEach, h, signature_of_visitEach h]

end

/-- Compiling either refuses a tree at once, whoever is the provider, or visits it. -/
theorem compile_cases (t : Tree) :
    (∃ e, ∀ {τ : Type} (p : Provider τ) (s : τ), compile p t s = (.error e, s)) ∨
    ∃ heading body name description, t = .program heading body ∧
      Text.filled? heading.name = some name ∧
      Text.filled? heading.description = some description := by
  cases t with
  | program heading body =>
    cases hname : Text.filled? heading.name with
    | none => exact Or.inl ⟨.noName, fun p s ↦ by simp only [compile, hname]⟩
    | some name =>
      cases hdescription : Text.filled? heading.description with
      | none => exact Or.inl ⟨.noDescription, fun p s ↦ by simp only [compile, hname, hdescription]⟩
      | some description =>
        exact Or.inr ⟨heading, body, name, description, rfl, hname, hdescription⟩
  | _ => exact Or.inl ⟨.notProgram, fun p s ↦ rfl⟩

/-- Compiling with a provider that writes down what it does. -/
theorem compile_recording (p : Provider σ) (t : Tree) (s : σ) :
    ∃ asked, asked <+: t.tools ∧ (∀ c s', compile p t s = (.ok c, s') → asked = t.tools) ∧
      ∀ log, compile p.recording t (s, log) =
        ((compile p t s).1, ((compile p t s).2, log ++ asked.map .define)) := by
  obtain ⟨e, hrefused⟩ | ⟨heading, body, name, description, rfl, hname, hdescription⟩ :=
    compile_cases t
  · refine ⟨[], List.nil_prefix, fun c s' hc ↦ ?_, fun log ↦ ?_⟩
    · rw [hrefused] at hc
      cases hc
    · rw [hrefused, hrefused, List.map_nil, List.append_nil]
  · obtain ⟨asked, hasked, hall, hrun⟩ :=
      @visitEach_collect_recording σ p name (Node.program heading body).nodes s {}
    rcases hvisit : visitEach (collect p name) (Node.program heading body).nodes (s, {}) with
      ⟨e | u, s', c⟩
    · rw [compile_of_visit_error hname hdescription hvisit]
      refine ⟨asked, hasked, fun _ _ hc ↦ (by cases hc), fun log ↦ ?_⟩
      have hlog := hrun log
      rw [hvisit] at hlog
      exact compile_of_visit_error hname hdescription hlog
    · rw [compile_of_visit_ok hname hdescription hvisit]
      refine ⟨asked, hasked, fun _ _ _ ↦ hall (by rw [hvisit]), fun log ↦ ?_⟩
      have hlog := hrun log
      rw [hvisit] at hlog
      exact compile_of_visit_ok hname hdescription hlog

theorem filled?_eq_some {text : Option String} {s : String} (h : Text.filled? text = some s) :
    text = some s ∧ s ≠ "" := by
  cases text with
  | none => cases h
  | some given =>
    rw [Text.filled?] at h
    split at h
    · cases h
    · next hne =>
      obtain rfl := Option.some.inj h
      exact ⟨rfl, hne⟩

/-- A tool is called after its program and described by it. -/
theorem heading_of_compile {p : Provider σ} {t : Tree} {s s' : σ} {c : CompiledTool}
    (h : compile p t s = (.ok c, s')) : ∃ heading body, t = .program heading body ∧
      heading.name = some c.name ∧ c.name ≠ "" ∧
      heading.description = some c.description ∧ c.description ≠ "" := by
  obtain ⟨e, hrefused⟩ | ⟨heading, body, name, description, rfl, hname, hdescription⟩ :=
    compile_cases t
  · rw [hrefused] at h
    cases h
  · rcases hvisit : visitEach (collect p name) (Node.program heading body).nodes (s, {}) with
      ⟨e | u, s₁, c₁⟩
    · rw [compile_of_visit_error hname hdescription hvisit] at h
      cases h
    · rw [compile_of_visit_ok hname hdescription hvisit] at h
      obtain rfl := Except.ok.inj (congrArg Prod.fst h)
      exact ⟨heading, body, rfl, (filled?_eq_some hname).1, (filled?_eq_some hname).2,
        filled?_eq_some hdescription⟩

/-- **Compiling accepts programs of first order only, and runs no tool.** A program that is compiled
has a name and a description that are not empty, and none of its nodes is a lambda or a list
operation. Whether or not it is compiled, compiling it with a provider that writes down its
operations gives the same result and the same state, and what is written down are lookups of the
tools that the program calls, in the order of a visit; if it is compiled, all of them. -/
theorem compile_firstOrder (p : Provider σ) (t : Tree) (s : σ) :
    (∀ c s', compile p t s = (.ok c, s') →
      (∃ heading body, t = .program heading body ∧
        heading.name = some c.name ∧ c.name ≠ "" ∧
        heading.description = some c.description ∧ c.description ≠ "") ∧
      ∀ n ∈ t.nodes, n.IsFirstOrder) ∧
    ∃ asked, asked <+: t.tools ∧ (∀ c s', compile p t s = (.ok c, s') → asked = t.tools) ∧
      ∀ log, compile p.recording t (s, log) =
        ((compile p t s).1, ((compile p t s).2, log ++ asked.map .define)) :=
  ⟨fun _ _ hc ↦ ⟨heading_of_compile hc, (compile_ok hc).1⟩, compile_recording p t s⟩

/-- A choice with a filter in one of its branches. -/
def chosenFilter : Tree :=
  .program ⟨.single, some "chosen", some "Filters what is chosen."⟩ [
    .cond (.call "gt" [.value "a" (.int 2), .value "b" (.int 1)])
      (.over .filter ["x"] "gt" [.value "x" .null, .value "b" (.int 1)]
        (.value "items" (.list [.int 1, .int 2]))) none]

/-- A program that is compiled, with the lookups that were made; and one that is refused for the
lambda of its filter, after the first lookup. -/
theorem compile_firstOrder_chosen :
    (∃ c, compile comparing.provider (chosenSum (.int 1) (.int 5) (.int 3) .null (.int 2)) none =
        (.ok c, none) ∧ c.name ≠ "" ∧ c.description ≠ "" ∧
      (∀ n ∈ (chosenSum (.int 1) (.int 5) (.int 3) .null (.int 2)).nodes, n.IsFirstOrder) ∧
      compile comparing.provider.recording
          (chosenSum (.int 1) (.int 5) (.int 3) .null (.int 2)) (none, []) =
        (.ok c, (none, [.define "add", .define "gt", .define "add"]))) ∧
    compile comparing.provider.recording chosenFilter (none, []) =
      (.error .higherOrder, (none, [.define "gt"])) := by
  have hc : ∃ c, compile comparing.provider
      (chosenSum (.int 1) (.int 5) (.int 3) .null (.int 2)) none = (.ok c, none) := ⟨_, by cbv⟩
  obtain ⟨c, hc⟩ := hc
  obtain ⟨haccepted, asked, -, hall, hrun⟩ := compile_firstOrder comparing.provider
    (chosenSum (.int 1) (.int 5) (.int 3) .null (.int 2)) none
  obtain ⟨⟨heading, body, -, -, hname, -, hdescription⟩, hfirst⟩ := haccepted c none hc
  refine ⟨⟨c, hc, hname, hdescription, hfirst, ?_⟩, by cbv⟩
  rw [hrun, hc, hall c none hc]
  rfl

end CallTree
