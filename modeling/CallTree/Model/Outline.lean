import CallTree.Eval.Basic
import CallTree.Model.Transport

/-!
# Parts that are left open

What providers, memories and generators do before anything particular is known of them. A provider
without tools of its own can neither list nor run any; a memory that keeps nothing takes messages
and has none to give; a generator without a model runs programs and leaves them as they are, and
neither grows nor answers.
-/

namespace CallTree.Outline

/-- Nothing is implemented here. -/
def missing {σ α : Type} : Attempt σ Fault α := fun s ↦ (.error (.notImplemented ""), s)

/-- A provider without tools of its own. -/
def provider : Provider (Option (Registry Value)) where
  list := missing
  define := lookUp id missing
  invoke _ _ := missing

/-- A memory of the messages of a conversation, with states of type `μ`. -/
structure Memory (μ : Type) where
  add : List Message → μ → μ
  get : μ → Option (List Message)
  clear : μ → μ

/-- The memory that keeps nothing. -/
def memory : Memory Unit where
  add _ s := s
  get _ := none
  clear s := s

/-- What a generator does to a program before it is used. -/
def prune (t : Tree) : Tree := t

/-- How a generator grows. -/
def grow : Except Fault Unit := .error (.notImplemented "")

/-- How a generator answers a question. -/
def answer (_query : String) : Except Fault Value := .error (.notImplemented "")

/-- How a generator runs a program. -/
def walk {σ : Type} (p : Provider σ) (t : Tree) : Action σ Value := run p t

end CallTree.Outline
