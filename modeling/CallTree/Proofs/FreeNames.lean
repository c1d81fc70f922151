import CallTree.Proofs.ParameterTypes
import CallTree.Proofs.Traversals

/-!
# Names of parameters

A parameter is called after its leaf. Where that name is taken, numbers are tried behind it, from
two on, until one is free. The search has no bound of its own. It comes to an end because different
numbers make different names, and only finitely many names are taken.

The names that leaves get in this way are all different, also where a leaf is itself called like
another one with a number (`Picked`). The leaves of a program, which are met in the order of their
places, thus have one parameter each, in that order, and the parameters always make a signature
(`parameters_distinct_and_complete`).
-/

namespace CallTree

/-! ## The search for a free name -/

/-- One turn of the search: a candidate that is taken gives way to the name with the next number. -/
inductive SearchTurn (name : String) (taken : List String) :
    String × Nat → String × Nat → Prop where
  | next {candidate : String} (k : Nat) (h : candidate ∈ taken) :
      SearchTurn name taken (candidate, k) (numbered name k, k + 1)

/-- What is picked for a leaf while some names are taken. It is the leaf's own name if that is free,
and otherwise the name with the least number, from two on, that is free. The search comes to it, and
does not go on forever. -/
structure Picked (name : String) (taken : List String) (picked : String) : Prop where
  free : picked ∉ taken
  own : name ∉ taken → picked = name
  least : name ∈ taken → ∃ k, 2 ≤ k ∧ picked = numbered name k ∧
    ∀ j, 2 ≤ j → j < k → numbered name j ∈ taken
  found : ∃ k, Relation.ReflTransGen (SearchTurn name taken) (name, 2) (picked, k)
  ends : ¬ ∃ turns : ℕ → String × ℕ, turns 0 = (name, 2) ∧
    ∀ n, SearchTurn name taken (turns n) (turns (n + 1))

section

variable {name : String} {taken : List String}

theorem searchTurn_iff {before after : String × Nat} : SearchTurn name taken before after ↔
    before.1 ∈ taken ∧ after = (numbered name before.2, before.2 + 1) := by
  constructor
  · rintro ⟨k, h⟩
    exact ⟨h, rfl⟩
  · rintro ⟨h, rfl⟩
    exact .next before.2 h

theorem uniqueName_of_not_mem (h : name ∉ taken) : uniqueName name taken = name := by
  rw [uniqueName, if_neg (by rwa [List.contains_iff_mem])]

theorem uniqueName_of_mem (h : name ∈ taken) :
    ∃ i, uniqueName name taken = numbered name (2 + i) ∧
      ∀ j < i, numbered name (2 + j) ∈ taken := by
  rw [uniqueName, if_pos (List.contains_iff_mem.mpr h)]
  obtain ⟨i, -, heq, htaken, -⟩ := firstFree_eq_numbered name taken taken.length 2
  exact ⟨i, heq, htaken⟩

/-- The turns of the search up to a number, if all before it are taken. -/
theorem searchTurns_to (h : name ∈ taken) {i : Nat}
    (htaken : ∀ j < i, numbered name (2 + j) ∈ taken) :
    Relation.ReflTransGen (SearchTurn name taken) (name, 2)
      (numbered name (2 + i), 2 + i + 1) := by
  induction i with
  | zero => exact .single (.next 2 h)
  | succ i ih =>
    have hbefore := ih fun j hj ↦ htaken j (Nat.lt_succ_of_lt hj)
    exact hbefore.tail (.next _ (htaken i (Nat.lt_succ_self i)))

/-- The search ends: its candidates are different names, and too few names are taken. -/
theorem searchTurns_end (name : String) (taken : List String) :
    ¬ ∃ turns : ℕ → String × ℕ, turns 0 = (name, 2) ∧
      ∀ n, SearchTurn name taken (turns n) (turns (n + 1)) := by
  rintro ⟨turns, hstart, hturns⟩
  have hturn := fun n ↦ searchTurn_iff.mp (hturns n)
  have hnumber : ∀ n, (turns n).2 = n + 2 := by
    intro n
    induction n with
    | zero => rw [hstart]
    | succ n ih => rw [(hturn n).2, ih]
  have htaken : ∀ n, numbered name (n + 2) ∈ taken := by
    intro n
    have hmem := (hturn (n + 1)).1
    rw [(hturn n).2, hnumber] at hmem
    exact hmem
  -- infinitely many different names would have to be taken
  refine not_injective_infinite_finite
    (fun n ↦ (⟨numbered name (n + 2), htaken n⟩ : {x // x ∈ taken})) fun j k hjk ↦ ?_
  exact Nat.add_right_cancel (numbered_inj (Subtype.mk.inj hjk))

theorem picked_uniqueName (name : String) (taken : List String) :
    Picked name taken (uniqueName name taken) := by
  refine ⟨uniqueName_not_mem name taken, uniqueName_of_not_mem, ?_, ?_, searchTurns_end name taken⟩
  · intro h
    obtain ⟨i, heq, htaken⟩ := uniqueName_of_mem h
    refine ⟨2 + i, Nat.le_add_right 2 i, heq, fun j hj hlt ↦ ?_⟩
    obtain ⟨j, rfl⟩ := Nat.exists_eq_add_of_le hj
    exact htaken j (Nat.lt_of_add_lt_add_left hlt)
  · by_cases h : name ∈ taken
    · obtain ⟨i, heq, htaken⟩ := uniqueName_of_mem h
      rw [heq]
      exact ⟨_, searchTurns_to h htaken⟩
    · rw [uniqueName_of_not_mem h]
      exact ⟨2, .refl⟩

end

/-! ## The names of all leaves -/

theorem isPrefix_parameterNames (taken names : List String) :
    taken <+: parameterNames taken names := by
  induction names generalizing taken with
  | nil => exact List.prefix_refl taken
  | cons name names ih => exact (List.prefix_append _ _).trans (ih _)

/-- Each leaf gets the name that is picked for it while those before it have theirs. -/
theorem getElem?_parameterNames {names : List String} {i : Nat} {name : String}
    (h : names[i]? = some name) : (parameterNames [] names)[i]? =
      some (uniqueName name ((parameterNames [] names).take i)) := by
  obtain ⟨hi, rfl⟩ := List.getElem?_eq_some_iff.mp h
  -- the names picked before it are those of the leaves before it
  have hsplit : parameterNames [] names = parameterNames (parameterNames [] (names.take i))
      (names[i] :: names.drop (i + 1)) := by
    rw [← parameterNames_append, List.getElem_cons_drop, List.take_append_drop]
  have hlen : (parameterNames [] (names.take i)).length = i := by
    rw [length_parameterNames, List.length_take, List.length_nil, Nat.zero_add,
      Nat.min_eq_left hi.le]
  rw [hsplit, parameterNames]
  obtain ⟨rest, hrest⟩ := isPrefix_parameterNames (parameterNames [] (names.take i) ++
    [uniqueName names[i] (parameterNames [] (names.take i))]) (names.drop (i + 1))
  rw [← hrest, List.append_assoc, List.take_left' hlen, List.getElem?_append_right hlen.le, hlen,
    Nat.sub_self]
  rfl

example : parameterNames [] ["x", "x", "x_2", "x"] = ["x", "x_2", "x_2_2", "x_3"] := by decide

/-! ## Parameters and leaves -/

namespace Node

variable {α : Type}

/-- The list of the leaves of a tree has them in the order of their places. -/
theorem exists_inOrder_leaves (t : Node α) :
    ∃ order : List (List Nat × String × α), (order.map Prod.fst).SortedLT ∧
      (∀ q l, (q, l) ∈ order ↔ t.At q (.value l.1 l.2)) ∧ order.map Prod.snd = t.leaves := by
  obtain ⟨order, horder, hnodes⟩ := t.exists_inOrder_nodes
  refine ⟨order.filterMap fun a ↦ a.2.leaf?.map (Prod.mk a.1), ?_, ?_, ?_⟩
  · rw [List.sortedLT_iff_pairwise, List.pairwise_map]
    refine List.Pairwise.filterMap _ ?_ horder.increasing
    intro a b hab a' ha b' hb
    obtain ⟨l, -, rfl⟩ := Option.map_eq_some_iff.mp ha
    obtain ⟨m, -, rfl⟩ := Option.map_eq_some_iff.mp hb
    exact hab
  · intro q l
    rw [List.mem_filterMap, ← horder.mem_iff]
    constructor
    · rintro ⟨⟨r, n⟩, hn, heq⟩
      obtain ⟨m, hm, hml⟩ := Option.map_eq_some_iff.mp heq
      obtain ⟨rfl, rfl⟩ := Prod.mk.inj hml
      rwa [← eq_value_of_mem_leaf? hm]
    · intro hl
      exact ⟨_, hl, rfl⟩
  · rw [leaves, ← hnodes, List.map_filterMap, List.filterMap_map]
    congr 1
    funext a
    simp [Function.comp_def]

end Node

/-- The leaves of a tree are numbered in the order of their places. -/
theorem Node.exists_orderIso_leaves (t : Tree) {k : Nat} (h : k = t.leaves.length) :
    ∃ e : Fin k ≃o {q // ∃ name literal, t.At q (.value name literal)},
      ∀ i, ∃ name literal, t.At (e i) (.value name literal) ∧
        t.leaves[i.1]? = some (name, literal) := by
  obtain ⟨order, hsorted, hmem, hleaves⟩ := t.exists_inOrder_leaves
  have hlen : k = (order.map Prod.fst).length := by
    rw [h, ← hleaves, List.length_map, List.length_map]
  have hplaces : {q | q ∈ order.map Prod.fst} =
      {q | ∃ name literal, t.At q (.value name literal)} := by
    ext q
    constructor
    · intro hq
      obtain ⟨⟨r, l⟩, hl, rfl⟩ := List.mem_map.mp hq
      exact ⟨l.1, l.2, (hmem r l).mp hl⟩
    · rintro ⟨name, literal, hq⟩
      exact List.mem_map.mpr ⟨(q, name, literal), (hmem q (name, literal)).mpr hq, rfl⟩
  refine ⟨(Fin.castOrderIso hlen).trans
    ((hsorted.getIso _).trans (OrderIso.setCongr _ _ hplaces)), fun i ↦ ?_⟩
  have hi : i.1 < order.length := by
    rw [← List.length_map Prod.fst, ← hlen]
    exact i.2
  refine ⟨order[i.1].2.1, order[i.1].2.2, ?_, ?_⟩
  · have hat := (hmem order[i.1].1 order[i.1].2).mp (List.getElem_mem hi)
    rw [← List.getElem_map Prod.fst] at hat
    exact hat
  · rw [← hleaves, List.getElem?_map, List.getElem?_eq_getElem hi]
    rfl

/-- **Parameters are named apart, one for each leaf.** For every list of names of leaves, the names
of parameters are as many and all different, and each is picked for its leaf while those before it
are taken.

So a program that compiles has its parameters in the order of its leaves: numbering the places of
the leaves in their order is an isomorphism of orders, and each parameter is named after the leaf
with its number. And what a visit has collected always makes a signature. -/
theorem parameters_distinct_and_complete {σ : Type} (names : List String) (p : Provider σ)
    (t : Tree) (s : σ) :
    ((parameterNames [] names).length = names.length ∧ (parameterNames [] names).Nodup ∧
      ∀ i name, names[i]? = some name → ∃ picked, (parameterNames [] names)[i]? = some picked ∧
        Picked name ((parameterNames [] names).take i) picked) ∧
    (∀ c s', compile p t s = (.ok c, s') →
      ∃ e : Fin c.parameters.length ≃o {q // ∃ name literal, t.At q (.value name literal)},
        ∀ i, ∃ name literal, t.At (e i) (.value name literal) ∧
          Picked name (c.names.take i) c.parameters[i].name) ∧
    ∀ program c s', visit (collect p program) t (s, {}) = (.ok (), (s', c)) →
      signature program c.parameters = .ok c.parameters := by
  refine ⟨⟨?_, nodup_parameterNames List.nodup_nil names, ?_⟩, ?_, ?_⟩
  · rw [length_parameterNames, List.length_nil, Nat.zero_add]
  · intro i name hname
    exact ⟨_, getElem?_parameterNames hname, picked_uniqueName name _⟩
  · intro c s' h
    obtain ⟨-, hnames, -⟩ := compile_ok h
    have hlen : c.parameters.length = t.leaves.length := by
      have hlen := congrArg List.length hnames
      rwa [length_parameterNames, CompiledTool.names, List.length_map, List.length_map,
        List.length_nil, Nat.zero_add] at hlen
    obtain ⟨e, he⟩ := t.exists_orderIso_leaves hlen
    refine ⟨e, fun i ↦ ?_⟩
    obtain ⟨name, literal, hat, hleaf⟩ := he i
    refine ⟨name, literal, hat, ?_⟩
    have hname : (t.leaves.map Prod.fst)[i.1]? = some name := by
      rw [List.getElem?_map, hleaf]
      rfl
    have hpicked := getElem?_parameterNames hname
    have hparameter : c.names[i.1]? = some c.parameters[i].name := by
      rw [CompiledTool.names, List.getElem?_map, List.getElem?_eq_getElem i.2]
      rfl
    rw [← hnames, hparameter] at hpicked
    rw [Option.some.inj hpicked]
    exact picked_uniqueName name _
  · intro program c s' h
    rw [visit_eq_visitEach] at h
    exact signature_of_visitEach h

/-- A program of five leaves with two names has five parameters, in the order of the places. -/
theorem parameters_distinct_and_complete_chosenSum :
    ∃ c, compile comparing.provider (chosenSum (.int 1) (.int 5) (.int 3) .null (.int 2)) none =
        (.ok c, none) ∧ c.names = ["a", "a_2", "b", "a_3", "b_2"] ∧
      ∃ e : Fin c.parameters.length ≃o {q // ∃ name literal,
          (chosenSum (.int 1) (.int 5) (.int 3) .null (.int 2)).At q (.value name literal)},
        ∀ i, ∃ name literal,
          (chosenSum (.int 1) (.int 5) (.int 3) .null (.int 2)).At (e i) (.value name literal) ∧
          Picked name (c.names.take i) c.parameters[i].name := by
  have hc : ∃ c, compile comparing.provider
      (chosenSum (.int 1) (.int 5) (.int 3) .null (.int 2)) none = (.ok c, none) ∧
      c.names = ["a", "a_2", "b", "a_3", "b_2"] := ⟨_, by cbv, by cbv⟩
  obtain ⟨c, hc, hnames⟩ := hc
  obtain ⟨-, hiso, -⟩ := parameters_distinct_and_complete [] comparing.provider
    (chosenSum (.int 1) (.int 5) (.int 3) .null (.int 2)) none
  exact ⟨c, hc, hnames, hiso c none hc⟩

end CallTree
