import CallTree.Effect
import CallTree.Entries
import CallTree.Tool.Definition

/-!
# Providers of tools

A provider lists its tools, looks one up by name and runs one. Each operation takes the provider's
state and gives back the state after it, also when it fails.

Most providers keep a registry: the tools by name, filled by the first listing. `lookUp` is their
common rule for looking up a tool.
-/

namespace CallTree

/-- A provider of tools with states of type `σ`. -/
structure Provider (σ : Type) where
  /-- The metadata of all tools. -/
  list : Attempt σ Fault (List Value)
  /-- The metadata of one tool. -/
  define : String → Attempt σ Fault Value
  /-- Runs a tool with named arguments. -/
  invoke : String → List (String × Value) → Attempt σ Fault Value

/-- Tools by name; each name occurs once, in the place where it was first put. -/
abbrev Registry (δ : Type) := List (String × δ)

namespace Registry

variable {δ : Type}

/-- A registry with a tool put in; a tool of the same name is replaced in its place. -/
abbrev put (name : String) (d : δ) (r : Registry δ) : Registry δ := Entries.put (· == ·) name d r

/-- The registry of a list of named tools, in which later ones replace earlier ones. -/
abbrev ofList (tools : List (String × δ)) : Registry δ := Entries.ofPairs (· == ·) tools

/-- The tools of a registry, in their places. -/
def tools (r : Registry δ) : List δ := r.map Prod.snd

end Registry

/-- The state of a provider after its registry was asked for: filled by a listing if it was
empty. -/
def ensureListed {σ : Type} (isFilled : σ → Bool) (list : Attempt σ Fault (List Value)) :
    Attempt σ Fault Unit := fun s ↦
  if isFilled s then (.ok (), s)
  else match list s with
    | (.ok _, s) => (.ok (), s)
    | (.error e, s) => (.error e, s)

/-- Looks a tool up in the registry, which is filled first if it is still empty, and normalises
its metadata under the name asked for. -/
def lookUp {σ : Type} (registry : σ → Option (Registry Value))
    (list : Attempt σ Fault (List Value)) (name : String) : Attempt σ Fault Value := fun s ↦
  match ensureListed (fun s ↦ (registry s).isSome) list s with
  | (.error e, s) => (.error e, s)
  | (.ok (), s) =>
    match registry s with
    | none => (.error .noRegistry, s)
    | some r =>
      match r.lookup name with
      | none => (.error (.toolMissing name), s)
      | some v =>
        match Definition.ofValue (some name) v with
        | .error d => (.error (.definition d), s)
        | .ok d => (.ok d.toValue, s)

end CallTree
