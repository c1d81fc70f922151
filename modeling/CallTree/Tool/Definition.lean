import CallTree.Fault

/-!
# Tool definitions

The metadata of a tool: its name, its parameters as named properties in order, and perhaps a
description. Providers hand out metadata as values of any shape; normalising one either gives a
definition, in which every property keeps its metadata and its place, or the first thing wrong
with it.
-/

namespace CallTree

/-- The metadata of a tool. The order of the properties is the order of the parameters. -/
structure Definition where
  name : String
  properties : List (String × List (Value × Value))
  /-- A description may be absent, or present and null. -/
  description : Option (Option String) := none

namespace Definition

/-- The names of a tool's parameters, in order. -/
def parameters (d : Definition) : List String := d.properties.map Prod.fst

/-- A definition as a value. -/
def toValue (d : Definition) : Value :=
  .record ([("name", .str d.name),
    ("properties", .record (d.properties.map fun (k, m) ↦ (k, .map m)))] ++
    (match d.description with
      | some t => [("description", .text? t)]
      | none => []))

/-- Whether an entry of a property's metadata is absent, null or passes a test. -/
def fieldOk (metadata : List (Value × Value)) (key : String) (test : Value → Bool) : Bool :=
  match Value.entry? key metadata with
  | none => true
  | some v => v.isNull || test v

/-- The metadata of one property, if it is well formed. -/
def property (tool : String) : Value × Value →
    Except DefinitionFault (String × List (Value × Value))
  | (.str name, raw) =>
    if name = "" then .error (.badPropertyName tool)
    else match raw with
      | .map m =>
        if !fieldOk m "type" (·.str?.isSome) then .error (.badProperty tool name .type)
        else if !fieldOk m "description" (·.str?.isSome) then
          .error (.badProperty tool name .description)
        else if !fieldOk m "enum" (·.list?.isSome) then .error (.badProperty tool name .enum)
        else .ok (name, m)
      | _ => .error (.badProperty tool name .notMapping)
  | _ => .error (.badPropertyName tool)

/-- The name in a tool's metadata; a missing name is taken from the request. -/
def nameOf (expected : Option String) (entries : List (Value × Value)) :
    Except DefinitionFault String :=
  match (Value.entry? "name" entries).or (expected.map .str) with
  | some (.str name) =>
    if name = "" then .error .noName
    else match expected with
      | some e => if name = e then .ok name else .error (.otherName name e)
      | none => .ok name
  | _ => .error .noName

/-- The description in a tool's metadata. -/
def descriptionOf (tool : String) (entries : List (Value × Value)) :
    Except DefinitionFault (Option (Option String)) :=
  match Value.entry? "description" entries with
  | none => .ok none
  | some .null => .ok (some none)
  | some (.str s) => .ok (some (some s))
  | some _ => .error (.badDescription tool)

/-- Normalises a tool's metadata. With an expected name, the tool has to have that name. -/
def ofValue (expected : Option String) : Value → Except DefinitionFault Definition
  | .map entries => do
    let name ← nameOf expected entries
    let description ← descriptionOf name entries
    match Value.entry? "properties" entries with
    | some (.map raw) =>
      let properties ← raw.mapM (property name)
      return ⟨name, properties, description⟩
    | _ => .error (.noProperties name)
  | _ => .error .notMapping

end Definition

end CallTree
