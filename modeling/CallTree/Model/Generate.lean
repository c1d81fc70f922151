import CallTree.Eval.Basic
import CallTree.Model.Config
import CallTree.Model.Prompt
import CallTree.Model.Transport
import CallTree.Sample.Programs
import CallTree.Tree.Check
import CallTree.Tree.Schema

/-!
# Programs made by a model

A model is asked a question and shown the tools it may use; it answers with a program. An answer
that is no program is sent back to it together with what is wrong, as often as the configuration
says. A failure of the transport ends the conversation at once.
-/

namespace CallTree

/-! ## Judging an answer -/

/-- Why an answer is no program. -/
inductive Rejection where
  | notJson (fault : Json.ReadFault) (text : String)
  | notMapping
  | notProgram (refusal : Refusal)
  deriving DecidableEq, Repr

instance : Described Rejection where
  label
    | .notJson (.malformed _ _) _ => "JSONDecodeError"
    | .notJson (.longNumeral _) _ => "ValueError"
    | .notMapping => "ValueError"
    | .notProgram r => Described.label r
  wording?
    | .notJson f text => some (f.message text)
    | .notMapping => some "Model response must contain a JSON object AST"
    | .notProgram r => Described.wording? r

/-- Whether a value is a mapping. -/
def Value.isMapping : Value → Bool
  | .map _ => true
  | _ => false

/-- Judges an answer: the mapping it holds and the program in that. -/
def judge (account : Account) (text : String) : Except Rejection (Value × Tree) :=
  match Json.read text with
  | .error f => .error (.notJson f text)
  | .ok v =>
    if v.isMapping then
      match parseOrRefuse account v with
      | .error r => .error (.notProgram r)
      | .ok t => .ok (v, t)
    else .error .notMapping

/-! ## Requests -/

/-- Chooses the tools that a question is answered with. -/
abbrev Selector (σ : Type) := Provider σ → String → Attempt σ Fault (List Value)

/-- Chooses all tools. -/
def allTools {σ : Type} : Selector σ := fun p _ ↦ p.list

/-- Chooses nothing and says so. -/
def noSelector {σ : Type} : Selector σ := fun _ _ s ↦ (.error (.notImplemented ""), s)

/-- What a tool's metadata has to hold under a key. -/
def neededEntry (key : String) : Value → Except Fault Value
  | .map es =>
    match Value.entry? key es with
    | some v => .ok v
    | none => .error .noSuchKey
  | _ => .error .wrongKind

/-- Whether a tool has one of some names. -/
def hasNameIn (names : List String) (v : Value) : Except Fault Bool := do
  match ← neededEntry "name" v with
  | .str name => return names.contains name
  | _ => return false

/-- Chooses the tools with given names. -/
def namedTools {σ : Type} (names : List String) : Selector σ := fun p _ s ↦
  match p.list s with
  | (.error e, s) => (.error e, s)
  | (.ok tools, s) => (tools.filterM (hasNameIn names), s)

/-- A tool as a model is shown it. -/
def toolOffer (v : Value) : Except Fault Value := do
  let name ← neededEntry "name" v
  let properties ← neededEntry "properties" v
  return .record [("type", .str "function"), ("function", .record [("name", name),
    ("description", (v.get? "description").getD .null),
    ("parameters", .record [("type", .str "object"), ("properties", properties)])])]

/-- A request for a JSON answer to some messages. -/
def jsonRequest (model : String) (messages : List Message) : Request :=
  [("model", .str model), ("messages", .list (messages.map Message.toValue)),
    ("response_format", .record [("type", .str "json_object")])]

/-- A request for a program. -/
def programRequest (c : Config) (tools : List Value) (messages : List Message) : Request :=
  jsonRequest c.model messages ++
  (if Config.takesTemperature c.model then [("temperature", c.temperature.toValue)] else []) ++
  (if tools.isEmpty then [] else [("tools", .list tools)])

/-! ## The conversation -/

/-- The prompt that opens a conversation. -/
def systemPrompt : String := Prompt.programs Schema.programText Sample.examplesText

/-- The messages that open a conversation: those of a history are put behind the prompt one by one,
the last of them first. -/
def openingMessages (history : List Message) (query : String) : List Message :=
  history.reverse.foldl (fun messages m ↦ messages.insertIdx 1 m)
    [⟨"system", systemPrompt⟩, ⟨"user", query⟩]

/-- The messages that send an answer back. -/
def repairMessages (text : String) (r : Rejection) : List Message :=
  [⟨"assistant", text⟩, ⟨"user",
    "The JSON AST failed validation. Return a corrected, complete program JSON object only. " ++
    "Validation error: " ++ wording r⟩]

/-- Why there is no program. -/
inductive GenerationFault where
  /-- A service failed. -/
  | raised (fault : Fault)
  /-- The last answer was no program. -/
  | rejected (rejection : Rejection)
  deriving DecidableEq, Repr

instance : Described GenerationFault where
  label
    | .raised f => Described.label f
    | .rejected r => Described.label r
  wording?
    | .raised f => Described.wording? f
    | .rejected r => Described.wording? r

variable {σ θ τ : Type}

/-- Asks for a program until an answer holds one or no repairs are left; `attempt` counts the
answers so far. -/
def converse (account : Account) (sv : Services σ θ τ) (c : Config) (tools : List Value)
    (attempt : Nat) : Nat → List Message → Flow σ θ τ GenerationFault (Value × Tree)
  | repairs, messages => do
    let text ← (complete sv (programRequest c tools messages) c.timeout).failingAs .raised
    match judge account text with
    | .ok found => return found
    | .error r =>
      match repairs with
      | 0 => Effect.fail (.rejected r)
      | repairs + 1 =>
        Flow.emit "model.response.validation_retry"
          [("attempt", .int (attempt + 1)), ("error", .str (summary r))]
        converse account sv c tools (attempt + 1) repairs (messages ++ repairMessages text r)

/-- What programs are made with. -/
structure Generator (σ θ τ : Type) where
  services : Services σ θ τ
  config : Config
  /-- How answers that are no programs are accounted for. -/
  account : Account
  history : List Message := []
  select : Selector σ := allTools
  /-- What is done to a program before it is used. -/
  prune : Tree → Except Fault Tree := .ok

/-- Asks a model for a program that answers a question: the mapping it answered with and the
program. -/
def Generator.generate (g : Generator σ θ τ) (query : String) :
    Flow σ θ τ GenerationFault (Value × Tree) := do
  let tools ← (Flow.askProvider (g.select g.services.provider query)).failingAs .raised
  let offers ← Effect.ofExcept ((tools.mapM toolOffer).mapError .raised)
  let (json, t) ← converse g.account g.services g.config offers 0 g.config.retries
    (openingMessages g.history query)
  let t ← Effect.ofExcept ((g.prune t).mapError .raised)
  return (json, t)

/-- Evaluates a program in the world. -/
def evalInWorld {ε : Type} (sv : Services σ θ τ) (t : Tree) :
    Flow σ θ τ ε (Except EvalFault Value) :=
  fun w ↦
    let o := run sv.provider t w.provider
    ⟨.ok o.result, { w with provider := o.state }, []⟩

end CallTree
