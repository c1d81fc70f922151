import CallTree.Report.Clock
import CallTree.Report.Event
import CallTree.Tool.Provider
import CallTree.Value.Arithmetic

/-!
# Asking a model

A transport sends a request to a model and brings back its answer, whole or in parts. A request is
a list of named values. What surrounds an exchange is always the same: an event before it, and one
event after it that says whether it was completed, failed or called off, and how long it took.

The world in which this happens has three parts, each with a state: a provider of tools, a
transport and a clock.
-/

namespace CallTree

/-- A message of a conversation. -/
structure Message where
  role : String
  content : String
  deriving DecidableEq, Repr

/-- The form of a message. -/
def Message.toValue (m : Message) : Value :=
  .record [("role", .str m.role), ("content", .str m.content)]

/-- What is sent to a model. -/
abbrev Request := List (String × Value)

/-- An answer in parts, and how it ended. -/
structure Delivery where
  parts : List String
  ending : Except Fault Unit

/-- A way to a model, with states of type `θ`. -/
structure Transport (θ : Type) where
  /-- The answer to a request, or nothing if none came in time. -/
  complete : Request → Attempt θ Fault (Option String)
  /-- The answer to a request in parts. -/
  stream : Request → θ → Delivery × θ

/-- What exchanges with a model rest on. -/
structure Services (σ θ τ : Type) where
  provider : Provider σ
  transport : Transport θ
  clock : Clock Float τ

/-- The states of the services. -/
structure World (σ θ τ : Type) where
  provider : σ
  transport : θ
  clock : τ

/-- An effect on the world, with events as its trace. -/
abbrev Flow (σ θ τ ε α : Type) := Effect (World σ θ τ) ε Report.Event α

namespace Flow

variable {σ θ τ ε α : Type}

/-- Sends out an event. -/
def emit (name : String) (attributes : List (String × Value)) : Flow σ θ τ ε Unit :=
  Effect.note ⟨name, attributes⟩

/-- Reads the clock. -/
def now (sv : Services σ θ τ) : Flow σ θ τ ε Float := fun w ↦
  let (x, clock) := sv.clock.now w.clock
  ⟨.ok x, { w with clock := clock }, []⟩

/-- An attempt on the provider. -/
def askProvider (x : Attempt σ ε α) : Flow σ θ τ ε α := fun w ↦
  let (r, s) := x w.provider
  ⟨r, { w with provider := s }, []⟩

/-- An attempt on the transport. -/
def askTransport (x : Attempt θ ε α) : Flow σ θ τ ε α := fun w ↦
  let (r, s) := x w.transport
  ⟨r, { w with transport := s }, []⟩

end Flow

/-! ## Whole answers -/

variable {σ θ τ : Type}

/-- The time since a reading of the clock, in milliseconds. -/
def elapsed (started finished : Float) : Value := .float ((finished - started) * 1000.0)

/-- A number or null. -/
def numberOrNull : Option Value.Number → Value
  | some x => x.toValue
  | none => .null

/-- Ends an exchange that failed: an event and the failure. -/
def failedExchange {α : Type} (sv : Services σ θ τ) (topic : String) (started : Float)
    (details : List (String × Value)) (e : Fault) : Flow σ θ τ Fault α := do
  let finished ← Flow.now sv
  let time := ("latency_ms", elapsed started finished)
  match e with
  | .cancelled => Flow.emit (topic ++ ".cancelled") (time :: details)
  | e => Flow.emit (topic ++ ".failed") (time :: details ++ [("error", .str (summary e))])
  Effect.fail e

/-- Asks a model for an answer. The events carry the request, the time limit and the answer. -/
def complete (sv : Services σ θ τ) (request : Request) (limit : Option Value.Number) :
    Flow σ θ τ Fault String := do
  let started ← Flow.now sv
  Flow.emit "model.request.started"
    [("request", .record request), ("timeout", numberOrNull limit)]
  match ← Effect.settle (Flow.askTransport (sv.transport.complete request)) with
  | .ok (some text) =>
    let finished ← Flow.now sv
    Flow.emit "model.request.completed"
      [("latency_ms", elapsed started finished), ("response", .str text)]
    return text
  | .ok none => failedExchange sv "model.request" started [] .timedOut
  | .error e => failedExchange sv "model.request" started [] e

/-! ## Answers in parts -/

/-- What is seen of an answer in parts while it comes: events, and the parts as they are given
out. -/
inductive Sight (β : Type) where
  | event (e : Report.Event)
  | part (b : β)

namespace Sight

variable {β γ : Type}

/-- The same sight with its part changed. -/
def map (f : β → γ) : Sight β → Sight γ
  | .event e => .event e
  | .part b => .part (f b)

/-- The event that is seen. -/
def event? : Sight β → Option Report.Event
  | .event e => some e
  | .part _ => none

/-- The part that is seen. -/
def part? : Sight β → Option β
  | .event _ => none
  | .part b => some b

end Sight

/-- An effect on the world that gives out parts of type `β`. They are seen also when it fails. -/
abbrev Feed (σ θ τ ε β α : Type) := Effect (World σ θ τ) ε (Sight β) α

/-- Gives out parts one after another and counts them on from `n`. -/
def giveOut {β ε : Type} : List β → Nat → Feed σ θ τ ε β Nat
  | [], n => return n
  | b :: bs, n => do
    Effect.note (.part b)
    giveOut bs (n + 1)

/-- Begins an exchange in parts: when it began, and what is delivered. -/
def openStream (sv : Services σ θ τ) (request : Request) :
    Flow σ θ τ Fault (Float × Delivery) := do
  let started ← Flow.now sv
  Flow.emit "model.stream.started" [("request", .record request)]
  let d ← Flow.askTransport fun s ↦
    let (d, s) := sv.transport.stream request s
    (.ok d, s)
  return (started, d)

/-- Ends an exchange in parts. The event carries the number of parts. -/
def closeStream (sv : Services σ θ τ) (started : Float) (count : Nat) :
    Except Fault Unit → Flow σ θ τ Fault Unit
  | .ok () => do
    let finished ← Flow.now sv
    Flow.emit "model.stream.completed"
      [("latency_ms", elapsed started finished), ("chunks", .int count)]
  | .error e => failedExchange sv "model.stream" started [("chunks", .int count)] e

/-- Asks a model for an answer in parts and gives them out. -/
def stream (sv : Services σ θ τ) (request : Request) : Feed σ θ τ Fault String Unit := do
  let (started, d) ← (openStream sv request).tracedAs .event
  let count ← giveOut d.parts 0
  (closeStream sv started count d.ending).tracedAs .event

end CallTree
