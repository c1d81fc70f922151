import Mathlib
import CallTree.Effect

/-!
# What effects guarantee

`x.Meets Q E T` says what can be relied on whenever the effect `x` is run, in whatever state: its
value satisfies `Q` if it gives one, its failure satisfies `E` if it fails, and in both cases
everything in its trace satisfies `T`. Such guarantees are passed on along the steps of an effect,
so that a guarantee of a whole run is put together from those of its steps.

The guarantees do not speak of states. A provider may do as it likes between two operations, and no
statement here depends on what it does.
-/

namespace CallTree.Effect

variable {σ ε τ α β : Type}

/-! ## Running one effect after another -/

theorem bind_of_ok {x : Effect σ ε τ α} {f : α → Effect σ ε τ β} {s : σ} {a : α}
    (h : (x s).result = .ok a) :
    (x >>= f) s = ⟨(f a (x s).state).result, (f a (x s).state).state,
      (x s).trace ++ (f a (x s).state).trace⟩ := by
  show andThen x f s = _
  rw [andThen]
  split
  · next b s' trace hx =>
    rw [hx] at h ⊢
    obtain rfl : b = a := Except.ok.inj h
    rfl
  · next e s' trace hx =>
    rw [hx] at h
    exact nomatch h

theorem bind_of_error {x : Effect σ ε τ α} {f : α → Effect σ ε τ β} {s : σ} {e : ε}
    (h : (x s).result = .error e) : (x >>= f) s = ⟨.error e, (x s).state, (x s).trace⟩ := by
  show andThen x f s = _
  rw [andThen]
  split
  · next b s' trace hx =>
    rw [hx] at h
    exact nomatch h
  · next e' s' trace hx =>
    rw [hx] at h ⊢
    obtain rfl : e' = e := Except.error.inj h
    rfl

/-- Effects obey the laws of a monad: traces are put one behind the other, and nothing is done
after a failure. -/
theorem lawfulMonad : LawfulMonad (Effect σ ε τ) := by
  refine LawfulMonad.mk' _ ?_ ?_ ?_
  · intro α x
    funext s
    show andThen x (fun a ↦ done (id a)) s = x s
    rw [andThen]
    rcases x s with ⟨_ | a, s₁, tr⟩
    · rfl
    · simp [done]
  · intro α β a f
    rfl
  · intro α β γ x f g
    funext s
    show andThen (andThen x f) g s = andThen x (fun a ↦ andThen (f a) g) s
    simp only [andThen]
    rcases x s with ⟨_ | a, s₁, tr₁⟩
    · rfl
    · dsimp only
      rcases f a s₁ with ⟨_ | b, s₂, tr₂⟩
      · rfl
      · dsimp only
        rw [List.append_assoc]

theorem result_bind_of_ok {x : Effect σ ε τ α} {f : α → Effect σ ε τ β} {s : σ} {a : α}
    (h : (x s).result = .ok a) : ((x >>= f) s).result = (f a (x s).state).result := by
  rw [bind_of_ok h]

theorem result_bind_of_error {x : Effect σ ε τ α} {f : α → Effect σ ε τ β} {s : σ} {e : ε}
    (h : (x s).result = .error e) : ((x >>= f) s).result = .error e := by
  rw [bind_of_error h]

theorem mapError_eq_ok_iff {δ : Type} {r : Except δ α} {g : δ → ε} {a : α} :
    r.mapError g = .ok a ↔ r = .ok a := by
  cases r <;> simp [Except.mapError]

theorem mapError_eq_error_iff {δ : Type} {r : Except δ α} {g : δ → ε} {e : ε} :
    r.mapError g = .error e ↔ ∃ f, r = .error f ∧ g f = e := by
  constructor
  · intro h
    cases r with
    | ok b => cases h
    | error f => exact ⟨f, rfl, Except.error.inj h⟩
  · rintro ⟨f, rfl, rfl⟩
    rfl

/-! ## Guarantees -/

/-- What can be relied on in every run of an effect. -/
structure Meets (x : Effect σ ε τ α) (Q : α → Prop) (E : ε → Prop) (T : τ → Prop) : Prop where
  /-- What a value satisfies. -/
  value : ∀ {s a}, (x s).result = .ok a → Q a
  /-- What a failure satisfies. -/
  fault : ∀ {s e}, (x s).result = .error e → E e
  /-- What the trace consists of, also if the effect fails. -/
  trace : ∀ {s t}, t ∈ (x s).trace → T t

namespace Meets

variable {x : Effect σ ε τ α} {f : α → Effect σ ε τ β} {Q Q' : α → Prop} {R : β → Prop}
  {E E' : ε → Prop} {T : τ → Prop}

theorem done {a : α} (h : Q a) : (done a : Effect σ ε τ α).Meets Q E T where
  value hr := Except.ok.inj hr ▸ h
  fault hr := nomatch hr
  trace ht := absurd ht List.not_mem_nil

theorem pure {a : α} (h : Q a) : (Pure.pure a : Effect σ ε τ α).Meets Q E T := Meets.done h

theorem fail {e : ε} (h : E e) : (fail e : Effect σ ε τ α).Meets Q E T where
  value hr := nomatch hr
  fault hr := Except.error.inj hr ▸ h
  trace ht := absurd ht List.not_mem_nil

theorem mono (h : x.Meets Q E T) (hQ : ∀ a, Q a → Q' a) (hE : ∀ e, E e → E' e) :
    x.Meets Q' E' T where
  value hr := hQ _ (h.value hr)
  fault hr := hE _ (h.fault hr)
  trace ht := h.trace ht

/-- A guarantee of two steps, where the second may rely on what the first guarantees of its
value. -/
theorem bind (hx : x.Meets Q E T) (hf : ∀ a, Q a → (f a).Meets R E T) :
    (x >>= f).Meets R E T := by
  -- every statement about a run is settled by whether the first step gave a value in it
  have hrun : ∀ s, (∃ a, Q a ∧ (x >>= f) s = ⟨(f a (x s).state).result, (f a (x s).state).state,
      (x s).trace ++ (f a (x s).state).trace⟩) ∨
      ∃ e, E e ∧ (x >>= f) s = ⟨.error e, (x s).state, (x s).trace⟩ := by
    intro s
    cases h : (x s).result with
    | ok a => exact Or.inl ⟨a, hx.value h, bind_of_ok h⟩
    | error e => exact Or.inr ⟨e, hx.fault h, bind_of_error h⟩
  refine ⟨?_, ?_, ?_⟩
  · intro s b hr
    obtain ⟨a, ha, h⟩ | ⟨e, he, h⟩ := hrun s
    · exact (hf a ha).value (h ▸ hr)
    · rw [h] at hr
      exact nomatch hr
  · intro s e hr
    obtain ⟨a, ha, h⟩ | ⟨e', he, h⟩ := hrun s
    · exact (hf a ha).fault (h ▸ hr)
    · rw [h] at hr
      exact Except.error.inj hr ▸ he
  · intro s t ht
    obtain ⟨a, ha, h⟩ | ⟨e, he, h⟩ := hrun s
    · rw [h] at ht
      exact (List.mem_append.mp ht).elim hx.trace (hf a ha).trace
    · rw [h] at ht
      exact hx.trace ht

/-- An effect that makes one attempt and leaves a fixed trace. -/
theorem of_attempt {δ : Type} {y : Attempt σ δ α} {g : δ → ε} {ts : List τ}
    (hrun : ∀ s, x s = ⟨(y s).1.mapError g, (y s).2, ts⟩) (hQ : ∀ s a, (y s).1 = .ok a → Q a)
    (hE : ∀ s f, (y s).1 = .error f → E (g f)) (hT : ∀ t ∈ ts, T t) : x.Meets Q E T := by
  refine ⟨?_, ?_, ?_⟩
  · intro s a h
    rw [hrun] at h
    exact hQ s a (mapError_eq_ok_iff.mp h)
  · intro s e h
    rw [hrun] at h
    obtain ⟨f, hf, rfl⟩ := mapError_eq_error_iff.mp h
    exact hE s f hf
  · intro s t h
    rw [hrun] at h
    exact hT t h

theorem note {t : τ} (h : T t) : (Effect.note t : Effect σ ε τ Unit).Meets (fun _ ↦ True) E T where
  value _ := trivial
  fault hr := nomatch hr
  trace ht := List.mem_singleton.mp ht ▸ h

theorem ofExcept {r : Except ε α} (hQ : ∀ a, r = .ok a → Q a) (hE : ∀ e, r = .error e → E e) :
    (Effect.ofExcept r : Effect σ ε τ α).Meets Q E T := by
  cases r with
  | ok a => exact Meets.done (hQ a rfl)
  | error e => exact Meets.fail (hE e rfl)

theorem failingAs {δ : Type} {g : ε → δ} {D : δ → Prop} (hx : x.Meets Q E T)
    (hE : ∀ e, E e → D (g e)) : (Effect.failingAs g x).Meets Q D T where
  value h := hx.value (mapError_eq_ok_iff.mp h)
  fault h := by
    obtain ⟨e, he, rfl⟩ := mapError_eq_error_iff.mp h
    exact hE e (hx.fault he)
  trace := hx.trace

/-- The result of an effect as a value, with what is known of values and failures. -/
theorem settle {δ : Type} {D : δ → Prop} (hx : x.Meets Q E T) :
    (Effect.settle x : Effect σ δ τ (Except ε α)).Meets
      (fun r ↦ (∀ a, r = .ok a → Q a) ∧ ∀ e, r = .error e → E e) D T where
  value hr := Except.ok.inj hr ▸ ⟨fun _ h ↦ hx.value h, fun _ h ↦ hx.fault h⟩
  fault hr := nomatch hr
  trace ht := hx.trace ht

/-- Working through a list: the values are as many as the items. -/
theorem each {ι : Type} {g : ι → Effect σ ε τ α} {xs : List ι}
    (h : ∀ x ∈ xs, (g x).Meets Q E T) :
    (each g xs).Meets (fun ys ↦ ys.length = xs.length ∧ ∀ y ∈ ys, Q y) E T := by
  induction xs with
  | nil => exact Meets.done ⟨rfl, fun _ hy ↦ absurd hy List.not_mem_nil⟩
  | cons x xs ih =>
    refine bind (h x List.mem_cons_self) fun y hy ↦ ?_
    refine bind (ih fun z hz ↦ h z (List.mem_cons_of_mem _ hz)) fun ys hys ↦ ?_
    refine Meets.pure ⟨congrArg (· + 1) hys.1, ?_⟩
    exact List.forall_mem_cons.mpr ⟨hy, hys.2⟩

end Meets

end CallTree.Effect
