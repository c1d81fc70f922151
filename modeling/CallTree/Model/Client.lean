import CallTree.Benchmark.Report
import CallTree.Model.Transport

/-!
# Transports over a client

A client of a model service answers a request with completions, each with a choice of contents and
the tokens it took, or with parts. A transport over a client takes the first content and keeps the
tokens of its last completion until they are asked for.
-/

namespace CallTree

/-- A completion: the contents of its choices, as far as they are texts, and the tokens it took. -/
structure Completion where
  choices : List (Option String)
  usage : Usage := {}

/-- An answer in parts: the contents of the choices of each part, and how it ended. -/
structure PartialCompletions where
  parts : List (List (Option String))
  ending : Except Fault Unit

/-- A client of a model service, with states of type `ς`. -/
structure Client (ς : Type) where
  complete : Request → Attempt ς Fault Completion
  stream : Request → ς → PartialCompletions × ς

/-- The state of a transport over a client. -/
structure ClientState (ς : Type) where
  client : ς
  /-- The tokens of the last completion. -/
  usage : Usage := {}

namespace Client

variable {ς : Type}

/-- The text of a completion. -/
def textOf (c : Completion) : Except Fault String :=
  match c.choices with
  | [] => .error .outOfRange
  | none :: _ => .error .noText
  | some text :: _ => .ok text

/-- A request with one value set. -/
def setValue (key : String) (v : Value) : Request → Request
  | [] => [(key, v)]
  | (k, x) :: r => if k = key then (k, v) :: r else (k, x) :: setValue key v r

/-- The parts of an answer that hold text. -/
def textParts (parts : List (List (Option String))) : List String :=
  (parts.flatten.filterMap id).filter (· != "")

/-- The transport over a client. -/
def transport (c : Client ς) : Transport (ClientState ς) where
  complete request s :=
    match c.complete request s.client with
    | (.error e, client) => (.error e, { s with client := client })
    | (.ok completion, client) =>
      ((textOf completion).map some, ⟨client, completion.usage⟩)
  stream request s :=
    let (answer, client) := c.stream (setValue "stream" (.bool true) request) s.client
    (⟨textParts answer.parts, answer.ending⟩, { s with client := client })

end Client

/-- The tokens of the last completion, which are then forgotten. -/
def ClientState.takeUsage {ς : Type} (s : ClientState ς) : Usage × ClientState ς :=
  (s.usage, { s with usage := {} })

end CallTree
