import CallTree.Compile.Basic
import CallTree.Proofs.Nodes

/-!
# What compiling collects

Compiling visits the nodes of a program with a visitor that asks for definitions, keeps a stack and
picks names. Of all that, this file keeps what a compiled program has when the visit came to its
end: no node of it is a lambda or a list operation, and there is one parameter for each leaf, in
order, named after it in the way of `parameterNames`. The visitor itself refuses lambdas and maps
only; that no other list operation is left either is due to the lambda that each of them has.

The names are all different. A search for a free name looks at one more number than there are names
taken, and different numbers make different names, so it never ends on a name that is taken.
-/

namespace CallTree

/-! ## Free names -/

theorem numbered_inj {name : String} {j k : Nat} (h : numbered name j = numbered name k) :
    j = k := by
  rw [numbered, numbered, String.append_right_inj, Nat.toString_eq_ofList_toDigits,
    Nat.toString_eq_ofList_toDigits, String.ofList_inj] at h
  rw [← Nat.ofDigitChars_ten_toDigits (n := j), h, Nat.ofDigitChars_ten_toDigits]

/-- The search passes over numbers that are taken, and stops at one that is free or at the last. -/
theorem firstFree_eq_numbered (name : String) (taken : List String) (fuel k : Nat) :
    ∃ i ≤ fuel, firstFree name taken fuel k = numbered name (k + i) ∧
      (∀ j < i, numbered name (k + j) ∈ taken) ∧ (i < fuel → numbered name (k + i) ∉ taken) := by
  induction fuel generalizing k with
  | zero => exact ⟨0, Nat.le_refl 0, rfl, by simp, by simp⟩
  | succ fuel ih =>
    rw [firstFree]
    split
    · next hk =>
      obtain ⟨i, hi, heq, htaken, hfree⟩ := ih (k + 1)
      have hshift : ∀ j, k + (j + 1) = k + 1 + j := fun j ↦ by omega
      refine ⟨i + 1, Nat.succ_le_succ hi, by rw [heq, hshift i], ?_, ?_⟩
      · intro j hj
        cases j with
        | zero => exact List.contains_iff_mem.mp hk
        | succ j =>
          rw [hshift j]
          exact htaken j (Nat.lt_of_succ_lt_succ hj)
      · intro hlt
        rw [hshift i]
        exact hfree (Nat.lt_of_succ_lt_succ hlt)
    · next hk =>
      exact ⟨0, Nat.zero_le _, rfl, by simp, fun _ hmem ↦ hk (List.contains_iff_mem.mpr hmem)⟩

theorem uniqueName_not_mem (name : String) (taken : List String) :
    uniqueName name taken ∉ taken := by
  rw [uniqueName]
  split
  · intro h
    -- too many different names would have to be taken
    obtain ⟨k, hk, heq, htaken, hfree⟩ := firstFree_eq_numbered name taken taken.length 2
    rw [heq] at h
    have hlast : k = taken.length := by
      by_contra hne
      exact hfree (Nat.lt_of_le_of_ne hk hne) h
    have hall : ∀ i ≤ taken.length, numbered name (2 + i) ∈ taken := by
      intro i hi
      by_cases hik : i = k
      · rwa [hik]
      · exact htaken i (by omega)
    have hsub : (List.range (taken.length + 1)).map (fun i ↦ numbered name (2 + i)) ⊆ taken := by
      intro x hx
      obtain ⟨i, hi, rfl⟩ := List.mem_map.mp hx
      exact hall i (Nat.lt_succ_iff.mp (List.mem_range.mp hi))
    have hnodup : ((List.range (taken.length + 1)).map fun i ↦ numbered name (2 + i)).Nodup := by
      refine List.pairwise_map.mpr (List.nodup_range.imp fun hne h ↦ ?_)
      exact hne (Nat.add_left_cancel (numbered_inj h))
    have hlen := hnodup.length_le_of_subset hsub
    rw [List.length_map, List.length_range] at hlen
    omega
  · next h => exact fun hmem ↦ h (List.contains_iff_mem.mpr hmem)

/-- The names of parameters for leaves of the given names, after some that are there already. -/
def parameterNames (taken : List String) : List String → List String
  | [] => taken
  | name :: names => parameterNames (taken ++ [uniqueName name taken]) names

theorem length_parameterNames (taken names : List String) :
    (parameterNames taken names).length = taken.length + names.length := by
  induction names generalizing taken with
  | nil => rfl
  | cons name names ih =>
    rw [parameterNames, ih, List.length_append, List.length_singleton, List.length_cons]
    omega

theorem nodup_parameterNames {taken : List String} (h : taken.Nodup) (names : List String) :
    (parameterNames taken names).Nodup := by
  induction names generalizing taken with
  | nil => exact h
  | cons name names ih =>
    -- each name is free when it is picked
    refine ih (List.nodup_append.mpr ⟨h, by simp, ?_⟩)
    intro x hx y hy
    rw [List.mem_singleton.mp hy]
    rintro rfl
    exact uniqueName_not_mem name taken hx

/-! ## Visits -/

section

variable {α σ ε : Type}

/-- Applies a visitor to nodes in turn. -/
def visitEach (f : Visitor α σ ε) : List (Node α) → σ → Except ε Unit × σ
  | [] => fun s ↦ (.ok (), s)
  | n :: ns => thenVisit (f n) (visitEach f ns)

theorem thenVisit_eq_ok_iff {x y : σ → Except ε Unit × σ} {s s' : σ} :
    thenVisit x y s = (.ok (), s') ↔ ∃ s₁, x s = (.ok (), s₁) ∧ y s₁ = (.ok (), s') := by
  rw [thenVisit]
  split
  · next s₁ hx => simp [hx]
  · next e s₁ hx => simp [hx]

theorem thenVisit_ok (x : σ → Except ε Unit × σ) : thenVisit x (fun s ↦ (.ok (), s)) = x := by
  funext s
  rw [thenVisit]
  rcases x s with ⟨_ | _, s₁⟩ <;> rfl

theorem thenVisit_assoc (x y z : σ → Except ε Unit × σ) :
    thenVisit (thenVisit x y) z = thenVisit x (thenVisit y z) := by
  funext s
  simp only [thenVisit]
  rcases x s with ⟨_ | _, s₁⟩ <;> rfl

theorem visitEach_append (f : Visitor α σ ε) (ns ms : List (Node α)) :
    visitEach f (ns ++ ms) = thenVisit (visitEach f ns) (visitEach f ms) := by
  induction ns with
  | nil => rfl
  | cons n ns ih => rw [List.cons_append, visitEach, visitEach, ih, thenVisit_assoc]

private theorem visitAll_eq_visitEach {f : Visitor α σ ε} {ts : List (Node α)}
    (h : ∀ t ∈ ts, visit f t = visitEach f t.nodes) :
    visitAll f ts = visitEach f (Node.nodesAll ts) := by
  induction ts with
  | nil => rfl
  | cons t ts ih =>
    obtain ⟨ht, hts⟩ := List.forall_mem_cons.mp h
    rw [visitAll, Node.nodesAll, visitEach_append, ht, ih hts]

/-- A visit of a tree goes through its nodes. -/
theorem visit_eq_visitEach (f : Visitor α σ ε) (t : Node α) :
    visit f t = visitEach f t.nodes := by
  have hone : ∀ n, f n = visitEach f [n] := fun n ↦ (thenVisit_ok (f n)).symm
  induction t using Node.induct with
  | value name literal => exact hone _
  | call tool args ih => rw [visit, Node.nodes, visitEach, visitAll_eq_visitEach ih]
  | program heading body ih => rw [visit, Node.nodes, visitEach, visitAll_eq_visitEach ih]
  | cond test yes iht ihy => rw [visit, Node.nodes, visitEach, visitEach_append, iht, ihy]
  | condElse test yes no iht ihy ihn =>
    rw [visit, Node.nodes, visitEach, visitEach_append, visitEach_append, thenVisit_assoc, iht, ihy,
      ihn]
  | lambda params tool args ih =>
    rw [visit, Node.nodes, visitEach, visitEach, visitAll_eq_visitEach ih]
  | listOp op params tool args items ih ihi =>
    rw [visit, Node.nodes, visitEach, visitEach, visitEach, visitEach_append,
      visitAll_eq_visitEach ih, ihi]
  | bare => exact hone _

end

/-! ## Collecting -/

/-- A node is neither a lambda nor a list operation. -/
def Node.IsFirstOrder {α : Type} : Node α → Prop
  | .lambda _ _ _ => False
  | .over _ _ _ _ _ => False
  | _ => True

/-- A list operation has its lambda right below it, so a tree without lambdas has none. -/
theorem Node.isFirstOrder_of_no_lambda {α : Type} {t : Node α}
    (h : ∀ n ∈ t.nodes, ∀ params tool args, n ≠ .lambda params tool args) :
    ∀ n ∈ t.nodes, n.IsFirstOrder := by
  intro n hn
  cases n with
  | lambda params tool args => exact (h _ hn params tool args rfl).elim
  | «over» op params tool args items =>
    have hbelow : .lambda params tool args ∈ (Node.over op params tool args items).nodes := by
      simp [nodes]
    exact (h _ (nodes_trans hn hbelow) params tool args rfl).elim
  | _ => trivial

section

variable {σ : Type} {p : Provider σ} {program : String}

theorem Collected.names_leaf {c c' : Collected} {name : String}
    (h : c.leaf program name = .ok c') : c'.names = c.names ++ [uniqueName name c.names] := by
  rw [leaf] at h
  simp only [bind, Except.bind] at h
  split at h
  · exact nomatch h
  · next stack hstack =>
    split at h
    · exact nomatch h
    · next top rest =>
      split at h
      · exact nomatch h
      · next metadata hmetadata =>
        split at h
        · obtain rfl := Except.ok.inj h
          simp [names]
        · exact nomatch h

theorem collect_call_of_error {tool : String} {args : List Tree} {s s' : σ} {c : Collected}
    {e : Fault} (h : p.define tool s = (.error e, s')) :
    collect p program (.call tool args) (s, c) = (.error (.raised e), (s', c)) := by
  simp only [collect, h]

theorem collect_call_of_malformed {tool : String} {args : List Tree} {s s' : σ} {c : Collected}
    {raw : Value} {d : DefinitionFault} (h : p.define tool s = (.ok raw, s'))
    (hd : Definition.ofValue (some tool) raw = .error d) :
    collect p program (.call tool args) (s, c) = (.error (.definition d), (s', c)) := by
  simp only [collect, h, hd]

theorem collect_call_of_ok {tool : String} {args : List Tree} {s s' : σ} {c : Collected}
    {raw : Value} {d : Definition} (h : p.define tool s = (.ok raw, s'))
    (hd : Definition.ofValue (some tool) raw = .ok d) :
    collect p program (.call tool args) (s, c) =
      (.ok (), (s', { c with stack := d.properties :: c.stack })) := by
  simp only [collect, h, hd]

/-- One step: a node that is collected is no lambda, and a leaf gets a parameter of its own. -/
theorem collect_ok {n : Tree} {s s' : σ} {c c' : Collected}
    (h : collect p program n (s, c) = (.ok (), (s', c'))) :
    (∀ params tool args, n ≠ .lambda params tool args) ∧
      c'.names = parameterNames c.names (n.leaf?.toList.map Prod.fst) := by
  cases n with
  | value name literal =>
    simp only [collect] at h
    split at h
    · next c₁ hleaf =>
      obtain rfl : c₁ = c' := congrArg (fun o ↦ o.2.2) h
      exact ⟨by rintro _ _ _ ⟨⟩, Collected.names_leaf hleaf⟩
    · exact nomatch h
  | call tool args =>
    simp only [collect] at h
    split at h
    · exact nomatch h
    · split at h
      · exact nomatch h
      · next d hd =>
        obtain rfl := congrArg (fun o ↦ o.2.2) h
        exact ⟨by rintro _ _ _ ⟨⟩, rfl⟩
  | program heading body =>
    obtain rfl : c = c' := congrArg (fun o ↦ o.2.2) h
    exact ⟨by rintro _ _ _ ⟨⟩, rfl⟩
  | cond test yes no =>
    obtain rfl : c = c' := congrArg (fun o ↦ o.2.2) h
    exact ⟨by rintro _ _ _ ⟨⟩, rfl⟩
  | bare =>
    obtain rfl : c = c' := congrArg (fun o ↦ o.2.2) h
    exact ⟨by rintro _ _ _ ⟨⟩, rfl⟩
  | lambda params tool args => exact nomatch h
  | «over» op params tool args items =>
    cases op with
    | map => exact nomatch h
    | _ =>
      obtain rfl : c = c' := congrArg (fun o ↦ o.2.2) h
      exact ⟨by rintro _ _ _ ⟨⟩, rfl⟩

theorem parameterNames_append (taken names more : List String) :
    parameterNames taken (names ++ more) = parameterNames (parameterNames taken names) more := by
  induction names generalizing taken with
  | nil => rfl
  | cons name names ih => exact ih _

/-- A whole visit: no node is a lambda, and each leaf has its parameter. -/
theorem visitEach_collect_ok {ns : List Tree} {s s' : σ} {c c' : Collected}
    (h : visitEach (collect p program) ns (s, c) = (.ok (), (s', c'))) :
    (∀ n ∈ ns, ∀ params tool args, n ≠ .lambda params tool args) ∧
      c'.names = parameterNames c.names ((ns.filterMap Node.leaf?).map Prod.fst) := by
  induction ns generalizing s c with
  | nil =>
    obtain rfl : c = c' := congrArg (fun o ↦ o.2.2) h
    exact ⟨fun n hn ↦ absurd hn List.not_mem_nil, rfl⟩
  | cons n ns ih =>
    obtain ⟨⟨s₁, c₁⟩, hn, hns⟩ := thenVisit_eq_ok_iff.mp h
    obtain ⟨hno, hnames⟩ := collect_ok hn
    obtain ⟨hnos, hnamess⟩ := ih hns
    refine ⟨List.forall_mem_cons.mpr ⟨hno, hnos⟩, ?_⟩
    rw [hnamess, hnames, ← parameterNames_append, ← List.map_append]
    cases hleaf : n.leaf? with
    | none => rw [List.filterMap_cons_none hleaf, Option.toList_none, List.nil_append]
    | some l => rw [List.filterMap_cons_some hleaf, Option.toList_some, List.singleton_append]

/-- The names that a visit has picked are all different, so they make a signature. -/
theorem signature_of_visitEach {ns : List Tree} {s s' : σ} {c : Collected}
    (h : visitEach (collect p program) ns (s, {}) = (.ok (), (s', c))) :
    signature program c.parameters = .ok c.parameters := by
  have hnames : c.parameters.map (·.name) = parameterNames [] _ := (visitEach_collect_ok h).2
  rw [signature, hnames, if_pos (nodup_parameterNames List.nodup_nil _)]

end

/-- The names of the parameters of a compiled tool. -/
def CompiledTool.names (c : CompiledTool) : List String := c.parameters.map (·.name)

/-- **What a compiled tool is.** Its program is of first order and is its body, and its parameters
are named after the leaves of the program. -/
theorem compile_ok {σ : Type} {p : Provider σ} {t : Tree} {s s' : σ} {c : CompiledTool}
    (h : compile p t s = (.ok c, s')) :
    (∀ n ∈ t.nodes, n.IsFirstOrder) ∧ c.names = parameterNames [] (t.leaves.map Prod.fst) ∧
      c.body = t := by
  cases t with
  | program heading body =>
    simp only [compile] at h
    split at h
    · exact nomatch h
    · exact nomatch h
    · next name description hname hdescription =>
      split at h
      · exact nomatch h
      · next s₁ c₁ hvisit =>
        rw [visit_eq_visitEach] at hvisit
        rw [signature_of_visitEach hvisit] at h
        obtain rfl := Except.ok.inj (congrArg Prod.fst h)
        obtain ⟨hno, hnames⟩ := visitEach_collect_ok hvisit
        exact ⟨Node.isFirstOrder_of_no_lambda hno, hnames, rfl⟩
  | _ => exact nomatch h

end CallTree
