/-!
# Effects

An effect takes a state and gives a result or a failure, the state after it, and a trace of what
happened on the way, in order. State and trace are there also when it fails. Doing one effect after
another concatenates their traces.
-/

namespace CallTree

/-- An operation on a state that may fail. -/
abbrev Attempt (σ ε α : Type) := σ → Except ε α × σ

/-- What an effect leaves behind. -/
structure Outcome (σ ε τ α : Type) where
  result : Except ε α
  state : σ
  trace : List τ

/-- An effect on states `σ` that may fail with `ε`, leaves a trace of `τ` and gives an `α`. -/
def Effect (σ ε τ α : Type) : Type := σ → Outcome σ ε τ α

namespace Effect

variable {σ ε τ α β : Type}

/-- The effect that does nothing and gives a value. -/
def done (a : α) : Effect σ ε τ α := fun s ↦ ⟨.ok a, s, []⟩

/-- The effect that fails. -/
def fail (e : ε) : Effect σ ε τ α := fun s ↦ ⟨.error e, s, []⟩

/-- One effect, and then another that depends on its value. -/
def andThen (x : Effect σ ε τ α) (f : α → Effect σ ε τ β) : Effect σ ε τ β := fun s ↦
  match x s with
  | ⟨.ok a, s, trace⟩ =>
    let o := f a s
    ⟨o.result, o.state, trace ++ o.trace⟩
  | ⟨.error e, s, trace⟩ => ⟨.error e, s, trace⟩

instance : Monad (Effect σ ε τ) where
  pure := done
  bind := andThen

/-- A result that is already there. -/
def ofExcept : Except ε α → Effect σ ε τ α
  | .ok a => done a
  | .error e => fail e

/-- Leaves something in the trace. -/
def note (t : τ) : Effect σ ε τ Unit := fun s ↦ ⟨.ok (), s, [t]⟩

/-- An attempt, without a trace. -/
def attempt (x : Attempt σ ε α) : Effect σ ε τ α := fun s ↦
  let (r, s) := x s
  ⟨r, s, []⟩

/-- The result of an effect as a value; the effect that never fails. -/
def settle {δ : Type} (x : Effect σ ε τ α) : Effect σ δ τ (Except ε α) := fun s ↦
  let o := x s
  ⟨.ok o.result, o.state, o.trace⟩

/-- An effect with its failures taken for another kind of failure. -/
def failingAs {δ : Type} (f : ε → δ) (x : Effect σ ε τ α) : Effect σ δ τ α := fun s ↦
  let o := x s
  ⟨o.result.mapError f, o.state, o.trace⟩

/-- An effect with its trace read in another way. -/
def tracedAs {ω : Type} (f : τ → ω) (x : Effect σ ε τ α) : Effect σ ε ω α := fun s ↦
  let o := x s
  ⟨o.result, o.state, o.trace.map f⟩

/-- Works through a list and collects the results. -/
def each {ι : Type} (f : ι → Effect σ ε τ α) : List ι → Effect σ ε τ (List α)
  | [] => done []
  | x :: xs => do
    let y ← f x
    let ys ← each f xs
    return y :: ys

end Effect

end CallTree
