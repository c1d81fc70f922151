import CallTree.Eval.Basic
import CallTree.Proofs.Definitions
import CallTree.Proofs.Effects
import CallTree.Tool.Session

/-!
# Normalising metadata twice

Metadata on its way from a registry to the evaluation of a call is normalised twice: when the tool
is looked up, and again before the arguments are paired with the parameters. Normalising drops what
a definition has no place for and keeps the rest as it is, so that the definition answers for its
properties and its description as the metadata did (`get?_toValue`), and is normalised to itself.

What this means for evaluation is said by a comparison. `registeredParameters` takes the parameters
of a tool from what the look-up answers with, without checking or normalising it. For a provider
that keeps a registry nothing can be told apart (`parametersFor_eq_registeredParameters`), in any
state, also when the registry is filled by this very look-up or the look-up fails.
-/

namespace CallTree

open Definition

namespace Definition

theorem get?_toValue_properties (d : Definition) :
    d.toValue.get? "properties" = some (.map (d.properties.map entry)) := by
  simp [toValue, Value.record, Value.get?, Value.entry?, entry, Function.comp_def]

theorem get?_toValue_description (d : Definition) :
    d.toValue.get? "description" = d.description.map Value.text? := by
  cases h : d.description <;> simp [toValue, Value.record, Value.get?, Value.entry?, h]

theorem entry?_description {tool : String} {entries : List (Value × Value)}
    {description : Option (Option String)} (h : descriptionOf tool entries = .ok description) :
    Value.entry? "description" entries = description.map Value.text? := by
  rw [descriptionOf] at h
  split at h
  · next hentry =>
    cases h
    exact hentry
  · next hentry =>
    cases h
    exact hentry
  · next hentry =>
    cases h
    exact hentry
  · cases h

/-- A definition answers for its properties and its description as the metadata it was made from,
also if there is no description. -/
theorem get?_toValue {expected : Option String} {v : Value} {d : Definition}
    (h : ofValue expected v = .ok d) :
    d.toValue.get? "properties" = v.get? "properties" ∧
      d.toValue.get? "description" = v.get? "description" := by
  obtain ⟨entries, rfl, -, hdescription, hproperties, -⟩ := ofValue_eq_ok_iff.mp h
  rw [get?_toValue_properties, get?_toValue_description]
  exact ⟨hproperties.symm, (entry?_description hdescription).symm⟩

theorem truthy_toValue (d : Definition) : d.toValue.truthy = true := rfl

/-- The parameters that the properties of a tool's metadata name. -/
def parametersIn (raw : Value) : List String :=
  match raw.get? "properties" with
  | some (.map entries) => entries.filterMap (·.1.str?)
  | _ => []

theorem parametersIn_toValue (d : Definition) : parametersIn d.toValue = d.parameters := by
  simp [parametersIn, get?_toValue_properties, parameters, entry, List.filterMap_map,
    Function.comp_def, Value.str?]

end Definition

/-! ## From the registry to a call -/

section

variable {σ : Type} {registry : σ → Option (Registry Value)} {list : Attempt σ Fault (List Value)}

/-- What a look-up answers with is a definition, made from what the registry holds after it. -/
theorem exists_of_lookUp_eq_ok {name : String} {s s' : σ} {raw : Value}
    (h : lookUp registry list name s = (.ok raw, s')) :
    ∃ r v d, registry s' = some r ∧ r.lookup name = some v ∧ ofValue (some name) v = .ok d ∧
      raw = d.toValue := by
  rw [lookUp] at h
  split at h
  · cases h
  · split at h
    · cases h
    · next r hr =>
      split at h
      · cases h
      · next v hv =>
        split at h
        · cases h
        · next d hd =>
          cases h
          exact ⟨r, v, d, hr, hv, hd, rfl⟩

/-- A definition that was looked up is normalised to itself under the name it was looked up by. -/
theorem ofValue_of_lookUp {name : String} {s s' : σ} {raw : Value}
    (h : lookUp registry list name s = (.ok raw, s')) :
    ∃ d, ofValue (some name) raw = .ok d ∧ d.toValue = raw := by
  obtain ⟨-, v, d, -, -, hd, rfl⟩ := exists_of_lookUp_eq_ok h
  exact ⟨d, ofValue_toValue hd (by simp [name_of_ofValue hd]), rfl⟩

/-- The parameters of a tool as the look-up gives them. -/
def registeredParameters (p : Provider σ) (tool : String) (count : Nat) :
    Action σ (List String) := do
  let raw ← Action.ask (p.define tool)
  if (parametersIn raw).length = count then Effect.done (parametersIn raw)
  else Effect.fail (.arity tool (parametersIn raw).length count)

/-- Evaluation may take a tool's parameters from the registry as they are. -/
theorem parametersFor_eq_registeredParameters {p : Provider σ}
    (hp : p.define = lookUp registry p.list) (tool : String) (count : Nat) :
    parametersFor p tool count = registeredParameters p tool count := by
  funext s
  rw [parametersFor, registeredParameters]
  cases hdefine : p.define tool s with
  | mk answer s' =>
    cases answer with
    | error e =>
      have hask : (Action.ask (p.define tool) s).result = .error (.raised e) := by
        rw [Action.ask, hdefine]
      rw [Effect.bind_of_error hask, Effect.bind_of_error hask]
    | ok raw =>
      have hask : (Action.ask (p.define tool) s).result = .ok raw := by
        rw [Action.ask, hdefine]
      obtain ⟨d, hd, rfl⟩ := ofValue_of_lookUp (hp ▸ hdefine)
      rw [Effect.bind_of_ok hask, Effect.bind_of_ok hask, truthy_toValue, hd,
        parametersIn_toValue]
      rfl

end

/-- **Normalising is a faithful projection.** A definition is normalised to itself, under no name
and under its own; it has the properties of the metadata it was made from, with all of their
metadata and in their order, and the same description, or none if there was none. So the second
normalisation of what a provider has looked up in its registry changes nothing, and the parameters
that the arguments of a call are paired with are those of the registry. -/
theorem normalising_faithful :
    (∀ {expected : Option String} {v : Value} {d : Definition}, ofValue expected v = .ok d →
      (ofValue none d.toValue = .ok d ∧ ofValue (some d.name) d.toValue = .ok d) ∧
      d.toValue.get? "properties" = v.get? "properties" ∧
      d.toValue.get? "description" = v.get? "description") ∧
    ∀ {σ : Type} {registry : σ → Option (Registry Value)} {p : Provider σ},
      p.define = lookUp registry p.list →
      (∀ tool s raw s', p.define tool s = (.ok raw, s') →
        ∃ d, ofValue (some tool) raw = .ok d ∧ d.toValue = raw) ∧
      ∀ tool count, parametersFor p tool count = registeredParameters p tool count := by
  refine ⟨fun {expected v d} h ↦ ⟨⟨?_, ?_⟩, get?_toValue h⟩, fun {σ registry p} hp ↦ ⟨?_, ?_⟩⟩
  · exact ofValue_toValue h (by simp)
  · exact ofValue_toValue h (by simp)
  · intro tool s raw s' hdefine
    exact ofValue_of_lookUp (hp ▸ hdefine)
  · exact parametersFor_eq_registeredParameters hp

/-- The input of a tool that pads a text. -/
def padInput : Value :=
  .record [("type", .str "object"),
    ("properties", .record [("width", .record [("type", .str "integer"), ("minimum", .int 0)]),
      ("text", .record [("enum", .list [.str "a"]), ("type", .null)])])]

/-- Metadata of the tool that lacks its name, with a description that is null and with an entry that
a definition has no place for. -/
def padMetadata : Value :=
  .record [("version", .int 2), ("description", .null),
    ("properties", (padInput.get? "properties").getD .null)]

/-- What the metadata is normalised to under the name of the tool. -/
def padDefinition : Definition where
  name := "pad"
  properties := [("width", [(.str "type", .str "integer"), (.str "minimum", .int 0)]),
    ("text", [(.str "enum", .list [.str "a"]), (.str "type", .null)])]
  description := some none

/-- A session with a server that offers the tool. -/
def padSession : Session Prepared := preparedSession [⟨"pad", none, padInput⟩]

theorem normalising_faithful_pad :
    ofValue (some "pad") padMetadata = .ok padDefinition ∧
    ofValue none padDefinition.toValue = .ok padDefinition ∧
    padDefinition.toValue.get? "properties" = padMetadata.get? "properties" ∧
    (parametersFor padSession.provider "pad" 2 ⟨none, []⟩).result = .ok ["width", "text"] := by
  have hpad : ofValue (some "pad") padMetadata = .ok padDefinition := by rfl
  obtain ⟨⟨hnone, -⟩, hproperties, -⟩ := normalising_faithful.1 hpad
  have hsame := (@normalising_faithful.2 _ Session.metadata padSession.provider rfl).2
  refine ⟨hpad, hnone, hproperties, ?_⟩
  rw [hsame]
  rfl

end CallTree
