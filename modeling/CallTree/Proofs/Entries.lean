import Mathlib
import CallTree.Entries

/-!
# Keys of entries

What is put into entries with keys, one by one: the keys stay distinct, no key is lost, nothing
comes in that was not put in, and pairs with distinct keys stand in their order. All of this holds
for keys of which being the same means being equal (`Tells`), as it does for texts.
-/

namespace CallTree.Entries

variable {α β : Type} {same : α → α → Bool} {K : α → Prop}

/-- Of keys of some kind, being the same means being equal. -/
def Tells (same : α → α → Bool) (K : α → Prop) : Prop :=
  ∀ ⦃k k'⦄, K k → K k' → (same k k' = true ↔ k = k')

/-- All keys are of some kind. -/
def KeysIn (K : α → Prop) (es : List (α × β)) : Prop := ∀ e ∈ es, K e.1

theorem tells_beq [BEq α] [LawfulBEq α] : Tells (α := α) (· == ·) fun _ ↦ True :=
  fun _ _ _ _ ↦ beq_iff_eq

section

variable {key : α} {value : β} {es : List (α × β)} (h : Tells same K) (hkey : K key)
  (hes : KeysIn K es)

include h hkey hes

theorem mem_of_mem_put {e : α × β} (he : e ∈ put same key value es) :
    e = (key, value) ∨ e ∈ es := by
  induction es with
  | nil => exact Or.inl (List.mem_singleton.mp he)
  | cons f fs ih =>
    obtain ⟨hf, hfs⟩ := List.forall_mem_cons.mp hes
    rw [put] at he
    split at he
    · next heq =>
      rcases List.mem_cons.mp he with rfl | he
      · rw [(h hf hkey).mp heq]
        exact Or.inl rfl
      · exact Or.inr (List.mem_cons_of_mem _ he)
    · rcases List.mem_cons.mp he with rfl | he
      · exact Or.inr List.mem_cons_self
      · exact (ih hfs he).imp_right (List.mem_cons_of_mem _)

theorem keysIn_put : KeysIn K (put same key value es) := by
  intro e he
  rcases mem_of_mem_put h hkey hes he with rfl | he
  · exact hkey
  · exact hes e he

theorem mem_keys_put {k : α} :
    k ∈ (put same key value es).map Prod.fst ↔ k = key ∨ k ∈ es.map Prod.fst := by
  induction es with
  | nil => simp [put]
  | cons f fs ih =>
    obtain ⟨hf, hfs⟩ := List.forall_mem_cons.mp hes
    rw [put]
    split
    · next heq =>
      -- the key keeps its place
      rw [List.map_cons, List.map_cons, List.mem_cons, (h hf hkey).mp heq]
      simp
    · rw [List.map_cons, List.map_cons, List.mem_cons, List.mem_cons, ih hfs, or_left_comm]

theorem put_of_not_mem (hnew : key ∉ es.map Prod.fst) :
    put same key value es = es ++ [(key, value)] := by
  induction es with
  | nil => rfl
  | cons f fs ih =>
    obtain ⟨hf, hfs⟩ := List.forall_mem_cons.mp hes
    rw [List.map_cons, List.mem_cons, not_or] at hnew
    have hne : ¬ same f.1 key = true := fun heq ↦ hnew.1 ((h hf hkey).mp heq).symm
    rw [put, if_neg hne, ih hfs hnew.2, List.cons_append]

theorem nodup_put (hnodup : (es.map Prod.fst).Nodup) :
    ((put same key value es).map Prod.fst).Nodup := by
  induction es with
  | nil => simp [put]
  | cons f fs ih =>
    obtain ⟨hf, hfs⟩ := List.forall_mem_cons.mp hes
    obtain ⟨hnew, hrest⟩ := List.nodup_cons.mp hnodup
    rw [put]
    split
    · exact List.nodup_cons.mpr ⟨hnew, hrest⟩
    · next hne =>
      refine List.nodup_cons.mpr ⟨fun hmem ↦ ?_, ih hfs hrest⟩
      rcases (mem_keys_put h hkey hfs).mp hmem with heq | hmem
      · exact hne ((h hf hkey).mpr heq)
      · exact hnew hmem

end

/-! ## Pairs put in one by one -/

/-- What is put in one by one: its keys are distinct and none of them is lost, and nothing comes in
that was neither there nor among the pairs. -/
theorem foldl_put_spec (h : Tells same K) {pairs acc : List (α × β)} (hpairs : KeysIn K pairs)
    (hacc : KeysIn K acc) (hnodup : (acc.map Prod.fst).Nodup) :
    ((pairs.foldl (fun es kv ↦ put same kv.1 kv.2 es) acc).map Prod.fst).Nodup ∧
      (∀ e ∈ pairs.foldl (fun es kv ↦ put same kv.1 kv.2 es) acc, e ∈ acc ∨ e ∈ pairs) ∧
      ∀ k, k ∈ (pairs.foldl (fun es kv ↦ put same kv.1 kv.2 es) acc).map Prod.fst ↔
        k ∈ acc.map Prod.fst ∨ k ∈ pairs.map Prod.fst := by
  induction pairs generalizing acc with
  | nil => exact ⟨hnodup, fun e he ↦ Or.inl he, fun k ↦ by simp⟩
  | cons f fs ih =>
    obtain ⟨hf, hfs⟩ := List.forall_mem_cons.mp hpairs
    obtain ⟨hdistinct, hmem, hkeys⟩ :=
      ih hfs (keysIn_put h hf hacc) (nodup_put h hf hacc hnodup)
    refine ⟨hdistinct, fun e he ↦ ?_, fun k ↦ ?_⟩
    · rcases hmem e he with he | he
      · rcases mem_of_mem_put h hf hacc he with rfl | he
        · exact Or.inr List.mem_cons_self
        · exact Or.inl he
      · exact Or.inr (List.mem_cons_of_mem _ he)
    · rw [List.foldl_cons, hkeys, mem_keys_put h hf hacc, List.map_cons, List.mem_cons, or_assoc,
        or_left_comm]

theorem ofPairs_spec (h : Tells same K) {pairs : List (α × β)} (hpairs : KeysIn K pairs) :
    ((ofPairs same pairs).map Prod.fst).Nodup ∧ (∀ e ∈ ofPairs same pairs, e ∈ pairs) ∧
      ∀ k, k ∈ (ofPairs same pairs).map Prod.fst ↔ k ∈ pairs.map Prod.fst := by
  obtain ⟨hdistinct, hmem, hkeys⟩ :=
    foldl_put_spec h hpairs (fun _ he ↦ absurd he List.not_mem_nil) List.nodup_nil
  refine ⟨hdistinct, fun e he ↦ (hmem e he).resolve_left List.not_mem_nil, fun k ↦ ?_⟩
  rw [ofPairs, hkeys, List.map_nil, or_iff_right List.not_mem_nil]

/-- Pairs with distinct keys are put in one behind the other. -/
theorem foldl_put_of_nodup (h : Tells same K) {acc es : List (α × β)} (hkeys : KeysIn K (acc ++ es))
    (hnodup : ((acc ++ es).map Prod.fst).Nodup) :
    es.foldl (fun fs e ↦ put same e.1 e.2 fs) acc = acc ++ es := by
  induction es generalizing acc with
  | nil => simp
  | cons e es ih =>
    obtain ⟨hacc, hes⟩ := List.forall_mem_append.mp hkeys
    have hnew : e.1 ∉ acc.map Prod.fst := by
      rw [List.map_append, List.nodup_append] at hnodup
      exact fun hmem ↦ hnodup.2.2 _ hmem _ List.mem_cons_self rfl
    have hput : put same e.1 e.2 acc = acc ++ [e] :=
      put_of_not_mem h (hes e List.mem_cons_self) hacc hnew
    rw [List.append_cons] at hkeys hnodup ⊢
    rw [List.foldl_cons, hput, ih hkeys hnodup]

theorem ofPairs_of_nodup (h : Tells same K) {es : List (α × β)} (hkeys : KeysIn K es)
    (hnodup : (es.map Prod.fst).Nodup) : ofPairs same es = es :=
  foldl_put_of_nodup h hkeys hnodup

end CallTree.Entries
