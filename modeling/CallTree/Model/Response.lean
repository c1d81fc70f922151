import CallTree.Model.Generate

/-!
# Responses

The response to a question holds either a program or the result of running one. A result can be
explained by the model, whole or in parts; a program can be given a name and a description by it.
-/

namespace CallTree

/-- Whether a response holds a program or a result. -/
inductive ResponseKind where
  | tree
  | walk
  deriving DecidableEq, Repr

/-- The word for a kind of response. -/
def ResponseKind.word : ResponseKind → String
  | .tree => "tree"
  | .walk => "walk"

/-- What a response holds. -/
inductive Content where
  | value (v : Value)
  | tree (t : Tree)

/-- A response to a question. -/
structure Response where
  query : String
  kind : ResponseKind
  content : Content
  /-- The mapping the model answered with. -/
  json : Option Value := none

/-- Why there is no response. -/
inductive AnswerFault where
  | generation (fault : GenerationFault)
  | evaluation (fault : EvalFault)
  deriving DecidableEq, Repr

instance : Described AnswerFault where
  label
    | .generation f => Described.label f
    | .evaluation f => Described.label f
  wording?
    | .generation f => Described.wording? f
    | .evaluation f => Described.wording? f

variable {σ θ τ : Type}

/-- Answers a question with a program or with the result of running it. -/
def Generator.answer (g : Generator σ θ τ) (query : String) (kind : ResponseKind) :
    Flow σ θ τ AnswerFault Response := do
  let (json, t) ← (g.generate query).failingAs .generation
  match kind with
  | .tree => return ⟨query, .tree, .tree t, some json⟩
  | .walk =>
    match ← evalInWorld g.services t with
    | .ok v => return ⟨query, .walk, .value v, some json⟩
    | .error e => Effect.fail (.evaluation e)

/-! ## Explanations and descriptions -/

/-- Why a response could not be explained or described. -/
inductive ResponseFault where
  | holdsTree
  | holdsResult
  | empty
  | notProgram
  /-- There is no configuration. -/
  | config (fault : ConfigFault)
  /-- A service failed. -/
  | raised (fault : Fault)
  /-- The model's answer is no description. -/
  | notDescription
  deriving DecidableEq, Repr

instance : Described ResponseFault where
  label
    | .config f => Described.label f
    | .raised f => Described.label f
    | .notDescription => "ValidationError"
    | _ => "ValueError"
  wording?
    | .holdsTree => some "Cannot explain a tree response."
    | .holdsResult => some "Only tree responses can be described."
    | .empty => some "No JSON representation of the tree available."
    | .notProgram => some "Only TreeProgram instances can be described."
    | .config f => Described.wording? f
    | .raised f => Described.wording? f
    | .notDescription => none

/-- What an explanation shows of a response's content. -/
def Content.shown : Content → Value
  | .value v => v
  | .tree t => t.toValue

/-- The request for an explanation. -/
def explainRequest (c : Config) (query : String) (v : Value) : Request :=
  [("model", .str c.model), ("messages", .list ([
    Message.mk "system" Prompt.explanations,
    Message.mk "user" (Prompt.explanation query (Value.record [("data", v)]).display)].map
      Message.toValue))]

/-- The written form of a tree. -/
def treeText (t : Tree) : String :=
  match Json.write ⟨false, false, false⟩ t.toValue with
  | .ok s => s
  | .error _ => ""

/-- The request for a description. -/
def describeRequest (c : Config) (t : Tree) : Request :=
  let program := String.ofList (Json.writeString true (treeText t))
  jsonRequest c.model [⟨"system", Prompt.descriptions⟩, ⟨"user", Prompt.description program⟩]

/-- The name and the description in a model's answer. -/
def descriptionOf? (text : String) : Option (String × String) := do
  let v ← (Json.read text).toOption
  let name ← (v.get? "name").bind Value.str?
  let description ← (v.get? "description").bind Value.str?
  return (name, description)

/-- A tree with its program named and described. -/
def described (name description : String) : Tree → Tree
  | .program h body => .program { h with name := some name, description := some description } body
  | t => t

namespace Response

/-- The configuration with which a response is explained or described. -/
abbrev Settings := Except ConfigFault Config

/-- Takes the configuration. -/
def settle (settings : Settings) : Flow σ θ τ ResponseFault Config :=
  Effect.ofExcept (settings.mapError .config)

/-- Has a result explained. -/
def explain (sv : Services σ θ τ) (settings : Settings) (r : Response) :
    Flow σ θ τ ResponseFault String :=
  match r.kind with
  | .tree => Effect.fail .holdsTree
  | .walk => do
    let c ← settle settings
    (complete sv (explainRequest c r.query r.content.shown) c.timeout).failingAs .raised

/-- Has a result explained in parts, as bytes. -/
def explainInParts (sv : Services σ θ τ) (settings : Settings) (r : Response) :
    Feed σ θ τ ResponseFault ByteArray Unit :=
  match r.kind with
  | .tree => Effect.fail .holdsTree
  | .walk => do
    let c ← (settle settings).tracedAs .event
    let parts := stream sv (explainRequest c r.query r.content.shown)
    (parts.failingAs .raised).tracedAs (.map String.toUTF8)

/-- Has a program named and described. -/
def describe (sv : Services σ θ τ) (settings : Settings) (r : Response) :
    Flow σ θ τ ResponseFault Tree :=
  match r.kind, r.content with
  | .walk, _ => Effect.fail .holdsResult
  | .tree, .value v => Effect.fail (if v.truthy then .notProgram else .empty)
  | .tree, .tree t =>
    if t.isProgram then do
      let c ← settle settings
      let text ← (complete sv (describeRequest c t) c.timeout).failingAs .raised
      match descriptionOf? text with
      | some (name, description) => return described name description t
      | none => Effect.fail .notDescription
    else Effect.fail .notProgram

end Response

end CallTree
