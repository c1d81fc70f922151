import CallTree.Text.Blank
import CallTree.Value.Arithmetic

/-!
# Configuration of the model

The model, the key of its service, the temperature, a time limit for each exchange, and how often an
invalid answer may be repaired. It is given, or read from variables of the environment.
-/

namespace CallTree

/-- A configuration. -/
structure Config where
  model : String
  apiKey : Option String := none
  temperature : Value.Number := .double 0.0
  timeout : Option Value.Number := none
  /-- How often the model is asked to repair an invalid answer. -/
  retries : Nat := 2

/-- Why there is no configuration. -/
inductive ConfigFault where
  | negativeRetries
  /-- The time limit in the environment is no number. -/
  | badTimeout
  deriving DecidableEq, Repr

instance : Described ConfigFault where
  label _ := "ValueError"
  wording?
    | .negativeRetries => some "validation_retries must be non-negative"
    | .badTimeout => none

namespace Config

/-- The number of repairs that a whole number stands for. -/
def retriesOf : Int → Except ConfigFault Nat
  | .ofNat n => .ok n
  | .negSucc _ => .error .negativeRetries

/-- The model that is asked if no other is named. -/
def defaultModel : String := "gpt-4o-2024-11-20"

/-- Variables of the environment. -/
abbrev Environment := List (String × String)

/-- A variable that is set and not empty. -/
def setting? (env : Environment) (name : String) : Option String := Text.filled? (env.lookup name)

/-- The time limit in the environment. -/
def timeoutOf (env : Environment) : Except ConfigFault (Option Value.Number) :=
  match setting? env "OPENAI_TIMEOUT" with
  | none => .ok none
  | some s =>
    match Value.toFloat (.str s) with
    | .ok x => .ok (some (.double x))
    | .error _ => .error .badTimeout

/-- The configuration in the environment. A model that is named and not empty goes first. -/
def ofEnvironment (env : Environment) (model : Option String) : Except ConfigFault Config := do
  let timeout ← timeoutOf env
  return {
    model := (Text.filled? model <|> setting? env "OPENAI_MODEL").getD defaultModel
    apiKey := env.lookup "OPENAI_API_KEY"
    timeout := timeout }

/-- Reads a configuration from a mapping. What it does not name stays as it is by default. -/
def ofValue (v : Value) : Except ConfigFault Config := do
  let base : Config := { model := ((v.get? "model").bind Value.str?).getD "" }
  let retries ← match (v.get? "validation_retries").bind Value.int? with
    | some n => retriesOf n
    | none => pure base.retries
  return { base with
    apiKey := (v.get? "api_key").bind Value.str?
    temperature := ((v.get? "temperature").bind Value.number?).getD base.temperature
    timeout := (v.get? "timeout").bind Value.number?
    retries := retries }

/-- How the names of models begin that take a temperature. -/
def warmModels : List String :=
  ["gpt-4o", "gpt-4o-mini", "gpt-4.1", "gpt-4.1-mini", "o1", "o1-mini"]

/-- Whether a model takes a temperature. -/
def takesTemperature (model : String) : Bool :=
  warmModels.any fun m ↦ m.toList.isPrefixOf model.toList

end Config

end CallTree
