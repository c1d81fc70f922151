import CallTree.Proofs.Guarantees

/-!
# How evaluation reads names

Bindings are read in two places only: at the leaves, and where a reduce looks up the value of its
accumulator before the first invocation. So an evaluation is settled by what is bound to the names
of leaves (`eval_congr`), provided that no lambda gets out as a closure, which would carry the
bindings along.

A list operation takes from its lambda only how it runs once its parameters are bound, and, for a
reduce, where it starts. `runListOp_congr` says so for two operations with different parameters in
different bindings, which is what renaming a parameter leads to.
-/

namespace CallTree

variable {σ : Type}

/-! ## Lookup -/

theorem extend_eq (names : Bindings) (new : List (String × Value)) :
    names.extend new = new.reverse ++ names := by
  rw [Bindings.extend]
  induction new generalizing names with
  | nil => rfl
  | cons b new ih => rw [List.foldl_cons, ih, List.reverse_cons, List.append_assoc]; rfl

/-- New bindings come first, and of two for one name the later. -/
theorem get?_extend (names : Bindings) (new : List (String × Value)) (x : String) :
    (names.extend new).get? x = (new.reverse.lookup x).or (names.get? x) := by
  rw [extend_eq, Bindings.get?, List.lookup_append, Bindings.get?]

/-- Where every key occurs once, a look-up finds what stands under the key. -/
theorem lookup_eq_some_of_mem {κ β : Type} [BEq κ] [LawfulBEq κ] {l : List (κ × β)} {e : κ × β}
    (hnodup : (l.map Prod.fst).Nodup) (he : e ∈ l) : l.lookup e.1 = some e.2 := by
  obtain ⟨before, after, rfl⟩ := List.append_of_mem he
  refine List.lookup_eq_some_iff.mpr ⟨before, after, rfl, fun a ha ↦ bne_iff_ne.mpr ?_⟩
  rw [List.map_append, List.map_cons] at hnodup
  exact fun heq ↦ (List.nodup_append.mp hnodup).2.2 a.1 (List.mem_map_of_mem ha) e.1
    List.mem_cons_self heq.symm

theorem lookup_reverse_zip_eq_none {params : List String} {vs : List Value} {x : String}
    (h : x ∉ params) : (params.zip vs).reverse.lookup x = none := by
  rw [List.lookup_eq_none_iff]
  intro b hb
  have hmem := (List.of_mem_zip (List.mem_reverse.mp hb)).1
  exact bne_iff_ne.mpr fun hx ↦ h (hx ▸ hmem)

theorem lookup_reverse_zip_isSome {params : List String} {vs : List Value} {x : String}
    (hlen : params.length = vs.length) (h : x ∈ params) :
    ((params.zip vs).reverse.lookup x).isSome := by
  rw [List.lookup_isSome_iff]
  obtain ⟨i, hi, rfl⟩ := List.mem_iff_getElem.mp h
  refine ⟨(params[i], vs[i]), List.mem_reverse.mpr ?_, beq_self_eq_true _⟩
  exact List.mem_iff_getElem.mpr ⟨i, by simp [hlen] at hi ⊢; omega, by simp⟩

/-- A parameter that is bound is read from its own list operation, whatever is bound around it. -/
theorem get?_extend_zip_of_mem {params : List String} {vs : List Value} {x : String}
    (hlen : params.length = vs.length) (h : x ∈ params) (names names' : Bindings) :
    (names.extend (params.zip vs)).get? x = (names'.extend (params.zip vs)).get? x := by
  obtain ⟨v, hv⟩ := Option.isSome_iff_exists.mp (lookup_reverse_zip_isSome hlen h)
  rw [get?_extend, get?_extend, hv, Option.some_or, Option.some_or]

theorem get?_extend_zip_of_not_mem {params : List String} {vs : List Value} {x : String}
    (h : x ∉ params) (names : Bindings) :
    (names.extend (params.zip vs)).get? x = names.get? x := by
  rw [get?_extend, lookup_reverse_zip_eq_none h, Option.none_or]

theorem get?_extend_congr {names names' : Bindings} {x : String}
    (h : names.get? x = names'.get? x) (new : List (String × Value)) :
    (names.extend new).get? x = (names'.extend new).get? x := by
  rw [get?_extend, get?_extend, h]

/-! ## List operations -/

/-- Where a reduce starts: at the value of the first leaf that is named by its accumulator. -/
def reduceStart? (names : Bindings) (params : List String) (leaves : List Tree) : Option Value :=
  params.head?.bind fun a ↦ (firstLeaf? a leaves).map (leafValue names a)

section

variable {names names' : Bindings} {params params' : List String} {leaves leaves' : List Tree}
  {body body' : Bindings → Action σ Value}

theorem reduceStep_congr (hlen : params.length = params'.length) {acc x : Value}
    (hbody : body (names.extend (params.zip [acc, x])) =
      body' (names'.extend (params'.zip [acc, x]))) :
    reduceStep names params body acc x = reduceStep names' params' body' acc x := by
  match params, params', hlen with
  | [], [], _ => rfl
  | [_], [_], _ => rfl
  | [_, _], [_, _], _ => exact hbody
  | _ :: _ :: _ :: _, _ :: _ :: _ :: _, _ => rfl

theorem reduceItems_congr (hlen : params.length = params'.length)
    (hstart : reduceStart? names params leaves = reduceStart? names' params' leaves')
    (hbody : ∀ v w, body (names.extend (params.zip [v, w])) =
      body' (names'.extend (params'.zip [v, w]))) (items : List Value) :
    reduceItems (placeholder? names leaves) names params body items =
      reduceItems (placeholder? names' leaves') names' params' body' items := by
  have hstep : reduceStep names params body = reduceStep names' params' body' :=
    funext fun v ↦ funext fun w ↦ reduceStep_congr hlen (hbody v w)
  cases items with
  | nil => rfl
  | cons first rest =>
    match params, params', hlen with
    | [], [], _ => rfl
    | a :: others, a' :: others', _ =>
      simp only [reduceStart?, List.head?_cons, Option.bind_some] at hstart
      simp only [reduceItems, placeholder?, hstart, hstep]

theorem runListOp_congr {op : ListOp} (hlen : params.length = params'.length)
    (hstart : op = .reduce →
      reduceStart? names params leaves = reduceStart? names' params' leaves')
    (hbody : ∀ vs : List Value, vs.length = op.arity →
      body (names.extend (params.zip vs)) = body' (names'.extend (params'.zip vs)))
    (items : List Value) :
    runListOp op (placeholder? names leaves) names params body items =
      runListOp op (placeholder? names' leaves') names' params' body' items := by
  -- a map and a filter bind the first parameter only
  have hone : op.arity = 1 → ∀ {a a' others others'}, params = a :: others →
      params' = a' :: others' → (fun x ↦ body (names.extend [(a, x)])) =
        fun x ↦ body' (names'.extend [(a', x)]) := by
    rintro harity a a' others others' rfl rfl
    funext x
    simpa using hbody [x] harity.symm
  cases op with
  | reduce => exact reduceItems_congr hlen (hstart rfl) (fun v w ↦ hbody [v, w] rfl) items
  | map =>
    match params, params', hlen with
    | [], [], _ => rfl
    | a :: others, a' :: others', _ => simp only [runListOp, hone rfl rfl rfl]
  | filter =>
    match params, params', hlen with
    | [], [], _ => rfl
    | a :: others, a' :: others', _ => simp only [runListOp, hone rfl rfl rfl]

theorem leafValue_congr {x : String} (h : names.get? x = names'.get? x) (literal : Value) :
    leafValue names x literal = leafValue names' x literal := by
  rw [leafValue, leafValue, h]

theorem reduceStart?_congr
    (hleaf : ∀ a ∈ params.head?, firstLeaf? a leaves = firstLeaf? a leaves')
    (h : ∀ a ∈ params.head?, ∀ literal, firstLeaf? a leaves = some literal →
      names.get? a = names'.get? a) :
    reduceStart? names params leaves = reduceStart? names' params leaves' := by
  rw [reduceStart?, reduceStart?]
  cases ha : params.head? with
  | none => rfl
  | some a =>
    rw [Option.bind_some, Option.bind_some, ← hleaf a ha]
    cases hl : firstLeaf? a leaves with
    | none => rfl
    | some literal => rw [Option.map_some, Option.map_some, leafValue_congr (h a ha literal hl)]

end

/-! ## Trees without closures -/

namespace Node

variable {α : Type}

mutual

/-- Whether lambdas occur only as functions of list operations. -/
def lambdasApplied : Node α → Bool
  | .value _ _ => true
  | .call _ args => lambdasAppliedAll args
  | .program _ body => lambdasAppliedAll body
  | .cond test yes none => test.lambdasApplied && yes.lambdasApplied
  | .cond test yes (some no) => test.lambdasApplied && yes.lambdasApplied && no.lambdasApplied
  | .lambda _ _ _ => false
  | .over _ _ _ args items => lambdasAppliedAll args && items.lambdasApplied
  | .bare => true

/-- Whether lambdas occur only as functions of list operations in all trees of a list. -/
def lambdasAppliedAll : List (Node α) → Bool
  | [] => true
  | t :: ts => t.lambdasApplied && lambdasAppliedAll ts

end

theorem lambdasAppliedAll_iff {ts : List (Node α)} :
    lambdasAppliedAll ts ↔ ∀ t ∈ ts, t.lambdasApplied := by
  induction ts with
  | nil => simp [lambdasAppliedAll]
  | cons t ts ih => rw [lambdasAppliedAll, Bool.and_eq_true, ih, List.forall_mem_cons]

theorem not_lambdasApplied_lambda {params : List String} {tool : String}
    {args : List (Node α)} : ¬(lambda params tool args).lambdasApplied :=
  Bool.false_ne_true

end Node

theorem evalAll_map {p : Provider σ} {names names' : Bindings} {ts : List Tree} {f : Tree → Tree}
    (h : ∀ t ∈ ts, eval p names t = eval p names' (f t)) :
    evalAll p names ts = evalAll p names' (ts.map f) := by
  induction ts with
  | nil => rfl
  | cons t ts ih =>
    obtain ⟨ht, hts⟩ := List.forall_mem_cons.mp h
    rw [List.map_cons, evalAll, evalAll, ht, ih hts]

theorem evalAll_congr {p : Provider σ} {names names' : Bindings} {ts : List Tree}
    (h : ∀ t ∈ ts, eval p names t = eval p names' t) :
    evalAll p names ts = evalAll p names' ts := by
  have hmap := evalAll_map (f := id) h
  rwa [List.map_id] at hmap

/-- **Evaluation depends on the names of leaves only.** -/
theorem eval_congr (p : Provider σ) {t : Tree} (ht : t.lambdasApplied) {names names' : Bindings}
    (h : ∀ {x literal}, .value x literal ∈ t.nodes → names.get? x = names'.get? x) :
    eval p names t = eval p names' t := by
  induction t using Node.induct generalizing names names' with
  | value name literal =>
    rw [eval, eval, leafValue_congr (h (Node.self_mem_nodes _))]
  | call tool args ih =>
    rw [Node.lambdasApplied, Node.lambdasAppliedAll_iff] at ht
    rw [eval, eval, evalAll_congr fun t hmem ↦ ih t hmem (ht t hmem) fun hx ↦
      h (List.mem_cons_of_mem _ (Node.mem_nodesAll_of_mem hmem hx))]
  | program heading body ih =>
    rw [Node.lambdasApplied, Node.lambdasAppliedAll_iff] at ht
    rw [eval, eval, evalAll_congr fun t hmem ↦ ih t hmem (ht t hmem) fun hx ↦
      h (List.mem_cons_of_mem _ (Node.mem_nodesAll_of_mem hmem hx))]
  | cond test yes iht ihy =>
    rw [Node.lambdasApplied, Bool.and_eq_true] at ht
    simp only [Node.nodes, List.mem_cons, List.mem_append] at h
    rw [eval, eval, iht ht.1 fun hx ↦ h (Or.inr (Or.inl hx)),
      ihy ht.2 fun hx ↦ h (Or.inr (Or.inr hx))]
  | condElse test yes no iht ihy ihn =>
    rw [Node.lambdasApplied, Bool.and_eq_true, Bool.and_eq_true] at ht
    simp only [Node.nodes, List.mem_cons, List.mem_append] at h
    rw [eval, eval, iht ht.1.1 fun hx ↦ h (Or.inr (Or.inl (Or.inl hx))),
      ihy ht.1.2 fun hx ↦ h (Or.inr (Or.inl (Or.inr hx))), ihn ht.2 fun hx ↦ h (Or.inr (Or.inr hx))]
  | lambda params tool args ih => exact absurd ht Node.not_lambdasApplied_lambda
  | listOp op params tool args items ih ihi =>
    rw [Node.lambdasApplied, Bool.and_eq_true, Node.lambdasAppliedAll_iff] at ht
    simp only [Node.nodes, List.mem_cons, List.mem_append] at h
    have hargs : ∀ {x literal}, .value x literal ∈ Node.nodesAll args →
        names.get? x = names'.get? x := fun hx ↦ h (Or.inr (Or.inr (Or.inr (Or.inl hx))))
    rw [eval, eval, ihi ht.2 fun hx ↦ h (Or.inr (Or.inr (Or.inr (Or.inr hx))))]
    refine congrArg _ (funext fun v ↦ congrArg _ (funext fun xs ↦ ?_))
    refine runListOp_congr rfl
      (fun _ ↦ reduceStart?_congr (fun _ _ ↦ rfl) fun a _ literal hl ↦ ?_) (fun vs _ ↦ ?_) xs
    · exact hargs (value_mem_of_firstLeaf? hl)
    · -- inside the lambda both bindings are extended alike
      rw [evalAll_congr fun t hmem ↦ ih t hmem (ht.1 t hmem) fun hx ↦
        get?_extend_congr (hargs (Node.mem_nodesAll_of_mem hmem hx)) _]
  | bare => rfl

end CallTree
