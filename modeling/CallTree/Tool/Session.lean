import CallTree.Code.Literal
import CallTree.Json.Write
import CallTree.Tool.Provider

/-!
# Sessions with a tool server

A server offers tools over a session: it can be asked for its tools and be told to run one. The
provider over a session asks for the tools once, normalises their metadata, and keeps them in a
registry; if the server fails to answer or the metadata of any tool is malformed, the registry stays
empty, and the next request asks again.

A tool's answer is a list of parts. An answer made of texts is decoded: each text is read as JSON,
or else as a literal, or else taken as it is. The two readers belong to the session: besides what
the notations say, it is up to them how large and how deep a text they can read, and what they make
of half a surrogate pair. `Readers.unbounded` are the readers of this library, which never
run out of anything.
-/

namespace CallTree

/-- One part of a tool's answer. -/
inductive Part where
  | text (s : String)
  /-- Content that is no text, in its written form. -/
  | other (form : Value)

/-- What a server answers to a tool call. -/
structure ToolAnswer where
  parts : List Part := []
  isError : Bool := false
  /-- Structured content, null if there is none. -/
  structured : Value := .null

/-- A tool as a server offers it. -/
structure OfferedTool where
  name : String
  description : Option String
  /-- The description of the tool's input, a mapping that may list its properties. -/
  input : Value

/-! ## Readers -/

/-- What a reader makes of a text. -/
inductive ReaderAnswer where
  | value (v : Value)
  /-- The text is not written in the notation that is read. -/
  | refused
  /-- Reading ended for another reason. -/
  | failed (fault : Fault)

/-- A text as JSON. -/
def ReaderAnswer.json (t : String) : ReaderAnswer :=
  match Json.read t with
  | .ok v => .value v
  | .error (.malformed _ _) => .refused
  | .error (.longNumeral n) => .failed (.notJson (.longNumeral n) t)

/-- A text as a literal. -/
def ReaderAnswer.literal (t : String) : ReaderAnswer :=
  match Code.readLiteral t with
  | .ok v => .value v
  | .error .notLiteral => .refused
  | .error .badKey => .failed .wrongKind
  | .error .tooLarge => .failed .overflow

/-- How texts are read. -/
structure Readers where
  json : String → ReaderAnswer
  literal : String → ReaderAnswer

/-- The readers of this library. -/
def Readers.unbounded : Readers := ⟨.json, .literal⟩

/-- The value a text answer stands for. -/
def decodeText (r : Readers) (s : String) : Except Fault Value :=
  let t := Text.trim s
  match r.json t with
  | .value v => .ok v
  | .failed f => .error f
  | .refused =>
    match r.literal t with
    | .value v => .ok v
    | .failed f => .error f
    | .refused => .ok (.str s)

/-! ## Sessions -/

/-- A session with a server. What the server answers, and whether it does, depends on its state, and
every request may change that. -/
structure Session (τ : Type) where
  /-- Asks for the tools that the server offers. -/
  tools : Attempt τ Fault (List OfferedTool)
  /-- Tells the server to run a tool. -/
  run : String → List (String × Value) → Attempt τ Fault ToolAnswer
  /-- What the texts of answers are read with. -/
  readers : Readers := .unbounded

/-- A provider's view of a session: the tools it knows, and the server's state. -/
structure SessionState (τ : Type) where
  registry : Option (Registry Definition) := none
  server : τ

/-! ## Decoding answers -/

/-- The texts among the parts of an answer. -/
def partTexts (parts : List Part) : List String :=
  parts.filterMap fun
    | .text s => some s
    | .other _ => none

/-- The written form of a part. -/
def Part.form : Part → Value
  | .text s => .record [("type", .str "text"), ("text", .str s)]
  | .other form => form

/-- A single value by itself, several as a list. -/
def oneOrMany : List Value → Value
  | [v] => v
  | vs => .list vs

/-- The value of a tool's answer. -/
def ToolAnswer.value (r : Readers) (tool : String) (a : ToolAnswer) : Except Fault Value :=
  let texts := partTexts a.parts
  if a.isError then
    let detail := "; ".intercalate texts
    let detail := if detail = "" then "provider returned an unspecified error" else detail
    .error (.toolFailed ("Error calling tool " ++ tool ++ ": " ++ detail))
  else if !a.structured.isNull then .ok a.structured
  else if a.parts.isEmpty then .ok .null
  else if texts.length ≠ a.parts.length then .ok (.list (a.parts.map Part.form))
  else (texts.mapM (decodeText r)).map oneOrMany

/-! ## The provider -/

/-- The metadata of an offered tool. -/
def OfferedTool.metadata (t : OfferedTool) : Value :=
  .record [("name", .str t.name), ("description", .text? t.description),
    ("properties", (t.input.get? "properties").getD (.map []))]

/-- The definition of an offered tool. -/
def OfferedTool.definition (t : OfferedTool) : Except DefinitionFault Definition :=
  Definition.ofValue (some t.name) t.metadata

namespace Session

variable {τ : Type}

/-- The registry that some tools fill. -/
def registryOf (ds : List Definition) : Registry Definition :=
  Registry.ofList (ds.map fun d ↦ (d.name, d))

/-- Asks the server for its tools and normalises their metadata. -/
def discover (x : Session τ) : Attempt τ Fault (List Definition) := fun server ↦
  match x.tools server with
  | (.ok tools, server) => ((tools.mapM OfferedTool.definition).mapError .definition, server)
  | (.error e, server) => (.error e, server)

/-- Lists the tools, asking the server if they are not known yet. -/
def definitions (x : Session τ) : Attempt (SessionState τ) Fault (List Definition) := fun s ↦
  match s.registry with
  | some r => (.ok r.tools, s)
  | none =>
    match x.discover s.server with
    | (.ok ds, server) => (.ok ds, ⟨some (registryOf ds), server⟩)
    | (.error e, server) => (.error e, ⟨none, server⟩)

/-- Lists the metadata of the tools. -/
def list (x : Session τ) : Attempt (SessionState τ) Fault (List Value) := fun s ↦
  match x.definitions s with
  | (.ok ds, s) => (.ok (ds.map Definition.toValue), s)
  | (.error e, s) => (.error e, s)

/-- Runs a tool and decodes its answer. -/
def invoke (x : Session τ) (tool : String) (args : List (String × Value)) :
    Attempt (SessionState τ) Fault Value := fun s ↦
  match x.run tool args s.server with
  | (.ok a, server) => (a.value x.readers tool, { s with server })
  | (.error e, server) => (.error e, { s with server })

/-- The metadata of the tools that a provider knows. -/
def metadata (s : SessionState τ) : Option (Registry Value) :=
  s.registry.map fun r ↦ r.map fun e ↦ (e.1, e.2.toValue)

/-- The provider over a session. -/
def provider (x : Session τ) : Provider (SessionState τ) where
  list := x.list
  define := lookUp metadata x.list
  invoke := x.invoke

/-- A session whose server counts how often it is asked for its tools. -/
def counting (x : Session τ) : Session (τ × Nat) where
  tools s := ((x.tools s.1).1, ((x.tools s.1).2, s.2 + 1))
  run tool args s := ((x.run tool args s.1).1, ((x.run tool args s.1).2, s.2))
  readers := x.readers

end Session

/-! ## Prepared sessions -/

/-- The answers that a prepared server gives to each tool, and how many it has given. -/
abbrev Prepared := List (String × List ToolAnswer)

/-- The answers with the first one of a tool taken, if it is not the last. -/
def Prepared.advance (tool : String) (p : Prepared) : Prepared :=
  p.map fun (n, as) ↦ if n = tool then (n, match as with
    | _ :: a :: rest => a :: rest
    | as => as) else (n, as)

/-- A session that always offers the same tools and answers each of them from a list, repeating the
last answer; a tool without answers is unknown. -/
def preparedSession (tools : List OfferedTool) : Session Prepared where
  tools p := (.ok tools, p)
  run tool _ := fun p ↦
    match p.lookup tool with
    | some (a :: _) => (.ok a, p.advance tool)
    | some [] => (.error .outOfRange, p)
    | none => (.error .noSuchKey, p)

end CallTree
