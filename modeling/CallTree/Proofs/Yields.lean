import CallTree.Proofs.Effects
import CallTree.Proofs.Names

/-!
# Effects that yield the same in every state and order

Of the outcome of an effect one may see whether it succeeded, and then its value and what is in its
trace, in whatever order; of a failure nothing more is seen (`Outcome.seen`). `x.Yields ω` says that
`x` shows `ω` in every state, and `x.Alike y` that two effects, on states that need not even be of
one type, show the same.

Effects that yield the same in every state may be run in any order. This is shown for `eachIn`,
which works through a list in the order it is told and puts the results back into their places: it
is like `Effect.each`, whatever the order (`Effect.yields_eachIn`).
-/

namespace CallTree

variable {σ σ' ε τ α β ι : Type}

/-- What is seen of an outcome: the value and the trace, up to its order, if there is a value. -/
def Outcome.seen (o : Outcome σ ε τ α) : Option (α × Multiset τ) :=
  match o.result with
  | .ok a => some (a, (o.trace : Multiset τ))
  | .error _ => none

theorem Outcome.seen_of_ok {o : Outcome σ ε τ α} {a : α} (h : o.result = .ok a) :
    o.seen = some (a, (o.trace : Multiset τ)) := by
  rw [seen, h]

theorem Outcome.seen_of_error {o : Outcome σ ε τ α} {e : ε} (h : o.result = .error e) :
    o.seen = none := by
  rw [seen, h]

namespace Effect

/-- The same is seen of an effect in every state. -/
def Yields (x : Effect σ ε τ α) (ω : Option (α × Multiset τ)) : Prop := ∀ s, (x s).seen = ω

theorem yields_done (a : α) : (done a : Effect σ ε τ α).Yields (some (a, 0)) := fun _ ↦ rfl

theorem yields_fail (e : ε) : (fail e : Effect σ ε τ α).Yields none := fun _ ↦ rfl

/-- An effect that makes one attempt, whose answer does not depend on the state, and leaves a fixed
trace. -/
theorem yields_of_attempt {δ : Type} {x : Effect σ ε τ α} {y : Attempt σ δ α} {g : δ → ε}
    {ts : List τ} {answer : Except δ α} (hrun : ∀ s, x s = ⟨(y s).1.mapError g, (y s).2, ts⟩)
    (hy : ∀ s, (y s).1 = answer) :
    x.Yields (answer.toOption.map fun a ↦ (a, (ts : Multiset τ))) := by
  intro s
  rw [hrun, hy, Outcome.seen]
  cases answer <;> rfl

theorem Yields.bind {x : Effect σ ε τ α} {f : α → Effect σ ε τ β} {ω : Option (α × Multiset τ)}
    {φ : α → Option (β × Multiset τ)} (hx : x.Yields ω) (hf : ∀ a, (f a).Yields (φ a)) :
    (x >>= f).Yields (ω.bind fun am ↦ (φ am.1).map fun bn ↦ (bn.1, am.2 + bn.2)) := by
  intro s
  rw [← hx s]
  cases hr : (x s).result with
  | error e =>
    rw [Outcome.seen_of_error hr, bind_of_error hr, Option.bind_none]
    rfl
  | ok a =>
    rw [Outcome.seen_of_ok hr, bind_of_ok hr, Option.bind_some, ← hf a (x s).state]
    cases hr' : (f a (x s).state).result with
    | error e =>
      rw [Outcome.seen_of_error hr', Option.map_none]
      rfl
    | ok b =>
      rw [Outcome.seen_of_ok hr', Option.map_some, Multiset.coe_add]
      rfl

/-- The value of an effect, changed by a function. -/
theorem Yields.bind_pure {x : Effect σ ε τ α} {ω : Option (α × Multiset τ)} (hx : x.Yields ω)
    (f : α → β) : (x >>= fun a ↦ pure (f a)).Yields (ω.map fun am ↦ (f am.1, am.2)) := by
  have h := hx.bind (f := fun a ↦ pure (f a)) fun a ↦ yields_done (f a)
  rcases ω with _ | ⟨a, m⟩
  · exact h
  · simpa using h

/-! ## Working through a list -/

theorem yields_each_of_some {f : ι → Effect σ ε τ α} {xs : List ι} {a : ι → α}
    {m : ι → Multiset τ} (h : ∀ x ∈ xs, (f x).Yields (some (a x, m x))) :
    (each f xs).Yields (some (xs.map a, (xs.map m).sum)) := by
  induction xs with
  | nil => exact yields_done []
  | cons x xs ih =>
    obtain ⟨hx, hxs⟩ := List.forall_mem_cons.mp h
    have hrest : ∀ y : α, (each f xs >>= fun ys ↦ pure (y :: ys)).Yields
        (some (y :: xs.map a, (xs.map m).sum)) := fun y ↦ (ih hxs).bind_pure (y :: ·)
    exact hx.bind hrest

theorem yields_each_of_none {f : ι → Effect σ ε τ α} {xs : List ι}
    {ω : ι → Option (α × Multiset τ)} (h : ∀ x ∈ xs, (f x).Yields (ω x)) {x : ι} (hx : x ∈ xs)
    (hnone : ω x = none) : (each f xs).Yields none := by
  induction xs with
  | nil => exact absurd hx List.not_mem_nil
  | cons y ys ih =>
    obtain ⟨hy, hys⟩ := List.forall_mem_cons.mp h
    cases hω : ω y with
    | none =>
      rw [hω] at hy
      intro s
      obtain ⟨e, he⟩ : ∃ e, (f y s).result = .error e := by
        cases hr : (f y s).result with
        | ok a => exact absurd (hy s) (by rw [Outcome.seen_of_ok hr]; exact nofun)
        | error e => exact ⟨e, rfl⟩
      rw [each, bind_of_error he]
      rfl
    | some am =>
      have hmem : x ∈ ys := by
        obtain rfl | hmem := List.mem_cons.mp hx
        · exact nomatch hnone.symm.trans hω
        · exact hmem
      have hrest : ∀ y : α, (each f ys >>= fun zs ↦ pure (y :: zs)).Yields none := fun y ↦
        (ih hys hmem).bind_pure (y :: ·)
      have hall := hy.bind hrest
      rw [hω] at hall
      exact hall

theorem each_map (f : ι → Effect σ ε τ α) (g : β → ι) (xs : List β) :
    each f (xs.map g) = each (f ∘ g) xs := by
  induction xs with
  | nil => rfl
  | cons x xs ih => rw [List.map_cons, each, each, ih, Function.comp_apply]

/-! ## Effects that show the same -/

/-- Two effects yield the same. -/
def Alike (x : Effect σ ε τ α) (y : Effect σ' ε τ α) : Prop := ∃ ω, x.Yields ω ∧ y.Yields ω

namespace Alike

theorem done (a : α) : (done a : Effect σ ε τ α).Alike (done a : Effect σ' ε τ α) :=
  ⟨_, yields_done a, yields_done a⟩

theorem pure (a : α) : (pure a : Effect σ ε τ α).Alike (pure a : Effect σ' ε τ α) := done a

theorem fail (e : ε) : (fail e : Effect σ ε τ α).Alike (fail e : Effect σ' ε τ α) :=
  ⟨none, yields_fail e, yields_fail e⟩

theorem bind {x : Effect σ ε τ α} {y : Effect σ' ε τ α} {f : α → Effect σ ε τ β}
    {g : α → Effect σ' ε τ β} (h : x.Alike y) (hfg : ∀ a, (f a).Alike (g a)) :
    (x >>= f).Alike (y >>= g) := by
  obtain ⟨ω, hx, hy⟩ := h
  choose φ hf hg using hfg
  exact ⟨_, hx.bind hf, hy.bind hg⟩

theorem each {f : ι → Effect σ ε τ α} {g : ι → Effect σ' ε τ α} {xs : List ι}
    (h : ∀ x ∈ xs, (f x).Alike (g x)) : (each f xs).Alike (each g xs) := by
  induction xs with
  | nil => exact done []
  | cons x xs ih =>
    obtain ⟨hx, hxs⟩ := List.forall_mem_cons.mp h
    exact hx.bind fun y ↦ (ih hxs).bind fun ys ↦ pure (y :: ys)

/-- Effects that are alike succeed alike, with one value and the same trace up to its order. -/
theorem outcome {x : Effect σ ε τ α} {y : Effect σ' ε τ α} (h : x.Alike y) (s : σ) (s' : σ') :
    ((∃ a, (x s).result = .ok a) ↔ ∃ a, (y s').result = .ok a) ∧
      ∀ a b, (x s).result = .ok a → (y s').result = .ok b →
        a = b ∧ (x s).trace.Perm (y s').trace := by
  obtain ⟨ω, hx, hy⟩ := h
  have hseen : (x s).seen = (y s').seen := (hx s).trans (hy s').symm
  cases hr : (x s).result with
  | error e =>
    cases hr' : (y s').result with
    | error e' => exact ⟨⟨nofun, nofun⟩, nofun⟩
    | ok b =>
      rw [Outcome.seen_of_error hr, Outcome.seen_of_ok hr'] at hseen
      exact nomatch hseen
  | ok a =>
    cases hr' : (y s').result with
    | error e' =>
      rw [Outcome.seen_of_ok hr, Outcome.seen_of_error hr'] at hseen
      exact nomatch hseen
    | ok b =>
      rw [Outcome.seen_of_ok hr, Outcome.seen_of_ok hr', Option.some.injEq, Prod.mk.injEq,
        Multiset.coe_eq_coe] at hseen
      refine ⟨⟨fun _ ↦ ⟨b, rfl⟩, fun _ ↦ ⟨a, rfl⟩⟩, ?_⟩
      rintro a' b' ⟨⟩ ⟨⟩
      exact hseen

end Alike

end Effect

/-! ## Orders -/

/-- In which order to take the members of a list, given by their positions, for every length. -/
structure Order where
  positions : ℕ → List ℕ
  perm : ∀ n, (positions n).Perm (List.range n)

/-- The order from right to left. -/
def Order.reversed : Order := ⟨fun n ↦ (List.range n).reverse, fun _ ↦ List.reverse_perm _⟩

/-- The members of a list with their positions, in an order. -/
def Order.arrange (o : Order) (xs : List ι) : List (ι × ℕ) :=
  (o.positions xs.length).filterMap fun i ↦ xs.zipIdx[i]?

namespace Effect

/-- The effect of a member of a list, its value together with the member's position. -/
def placed (f : ι → Effect σ ε τ α) (e : ι × ℕ) : Effect σ ε τ (ℕ × α) := do
  return (e.2, ← f e.1)

/-- Works through a list in an order and collects the results in the places of the list. -/
def eachIn (o : Order) (f : ι → Effect σ ε τ α) (xs : List ι) : Effect σ ε τ (List α) := do
  let found ← each (placed f) (o.arrange xs)
  return (List.range xs.length).filterMap fun i ↦ found.lookup i

end Effect

theorem Order.arrange_map (o : Order) (g : β → ι) (xs : List β) :
    o.arrange (xs.map g) = (o.arrange xs).map (Prod.map g id) := by
  rw [arrange, arrange, List.length_map, List.map_filterMap]
  refine List.filterMap_congr fun i _ ↦ ?_
  rw [← List.getElem?_map, List.zipIdx_map]

theorem Effect.eachIn_map (o : Order) (f : ι → Effect σ ε τ α) (g : β → ι) (xs : List β) :
    eachIn o f (xs.map g) = eachIn o (f ∘ g) xs := by
  rw [eachIn, eachIn, o.arrange_map, each_map, List.length_map]
  rfl

theorem filterMap_range_getElem? (xs : List α) :
    (List.range xs.length).filterMap (fun i ↦ xs[i]?) = xs := by
  induction xs with
  | nil => rfl
  | cons x xs ih =>
    rw [List.length_cons, List.range_succ_eq_map, List.filterMap_cons_some List.getElem?_cons_zero,
      List.filterMap_map]
    exact congrArg (x :: ·) ih

theorem Order.arrange_perm (o : Order) (xs : List ι) : (o.arrange xs).Perm xs.zipIdx := by
  have h := (o.perm xs.length).filterMap fun i ↦ xs.zipIdx[i]?
  have hall := filterMap_range_getElem? xs.zipIdx
  rw [List.length_zipIdx] at hall
  rwa [hall] at h

/-- The results that were found in an order, back in their places. -/
theorem Order.collect_arrange (o : Order) (xs : List ι) (a : ι → α) :
    (List.range xs.length).filterMap
      (fun i ↦ ((o.arrange xs).map fun e ↦ (e.2, a e.1)).lookup i) = xs.map a := by
  have hnodup : (((o.arrange xs).map fun e ↦ (e.2, a e.1)).map Prod.fst).Nodup := by
    have hkeys := ((o.arrange_perm xs).map Prod.snd).nodup_iff
    rw [List.map_map]
    refine hkeys.mpr ?_
    rw [List.zipIdx_map_snd]
    exact List.nodup_range'
  have hlookup : ∀ i ∈ List.range xs.length,
      ((o.arrange xs).map fun e ↦ (e.2, a e.1)).lookup i = (xs.map a)[i]? := by
    intro i hi
    have hlt := List.mem_range.mp hi
    have hmem : (xs[i], i) ∈ o.arrange xs := (o.arrange_perm xs).mem_iff.mpr
      (List.mk_mem_zipIdx_iff_getElem?.mpr (List.getElem?_eq_getElem hlt))
    have hfound := lookup_eq_some_of_mem hnodup (List.mem_map_of_mem hmem)
    rw [hfound, List.getElem?_map, List.getElem?_eq_getElem hlt, Option.map_some]
  rw [List.filterMap_congr hlookup]
  have hall := filterMap_range_getElem? (xs.map a)
  rwa [List.length_map] at hall

namespace Effect

theorem Yields.placed {f : ι → Effect σ ε τ α} {e : ι × ℕ} {ω : Option (α × Multiset τ)}
    (h : (f e.1).Yields ω) :
    (placed f e).Yields (ω.map fun am ↦ ((e.2, am.1), am.2)) :=
  h.bind_pure fun a ↦ (e.2, a)

/-- **Any order will do.** Effects that yield the same in every state yield together what they yield
one after the other, in whatever order they are run. -/
theorem yields_eachIn [Inhabited α] {f : ι → Effect σ ε τ α} {g : ι → Effect σ' ε τ α}
    {xs : List ι} (h : ∀ x ∈ xs, (f x).Alike (g x)) :
    ∃ ω, (each f xs).Yields ω ∧ ∀ o : Order, (eachIn o g xs).Yields ω := by
  choose! ω hf hg using h
  have hmem : ∀ o : Order, ∀ e ∈ o.arrange xs, e.1 ∈ xs := fun o e he ↦
    List.fst_mem_of_mem_zipIdx ((o.arrange_perm xs).mem_iff.mp he)
  -- either all of them succeed, and the results go back into their places, or one of them fails,
  -- and then no order gets past it
  by_cases hall : ∀ x ∈ xs, ∃ am, ω x = some am
  · choose! am ham using hall
    refine ⟨_, yields_each_of_some fun x hx ↦ ham x hx ▸ hf x hx, fun o ↦ ?_⟩
    have hfound : (each (placed g) (o.arrange xs)).Yields
        (some ((o.arrange xs).map (fun e ↦ (e.2, (am e.1).1)),
          ((o.arrange xs).map fun e ↦ (am e.1).2).sum)) := by
      refine yields_each_of_some fun e he ↦ ?_
      have hyield := (hg e.1 (hmem o e he)).placed
      rwa [ham e.1 (hmem o e he)] at hyield
    have hplaced := hfound.bind_pure fun found ↦
      (List.range xs.length).filterMap fun i ↦ found.lookup i
    -- the traces of the effects add up to the same in every order
    have hsum : ((o.arrange xs).map fun e ↦ (am e.1).2).sum = (xs.map fun x ↦ (am x).2).sum := by
      have hfst : xs.zipIdx.map (fun e ↦ (am e.1).2) = xs.map fun x ↦ (am x).2 := by
        conv_rhs => rw [← List.zipIdx_map_fst 0 xs, List.map_map]
        rfl
      rw [((o.arrange_perm xs).map fun e ↦ (am e.1).2).sum_eq, hfst]
    rwa [Option.map_some, o.collect_arrange xs fun x ↦ (am x).1, hsum] at hplaced
  · obtain ⟨x, hx, hnone⟩ : ∃ x ∈ xs, ω x = none := by
      simpa [← Option.isSome_iff_exists] using hall
    refine ⟨none, yields_each_of_none hf hx hnone, fun o ↦ ?_⟩
    obtain ⟨i, hi⟩ := List.mem_iff_getElem?.mp hx
    have hplace : (x, i) ∈ o.arrange xs :=
      (o.arrange_perm xs).mem_iff.mpr (List.mk_mem_zipIdx_iff_getElem?.mpr hi)
    have hfound : (each (placed g) (o.arrange xs)).Yields none :=
      yields_each_of_none (fun e he ↦ (hg e.1 (hmem o e he)).placed) hplace (by rw [hnone]; rfl)
    exact hfound.bind_pure _

end Effect

end CallTree
