import CallTree.Benchmark.Offline
import CallTree.Model.Client
import CallTree.Model.Response

/-!
# Live benchmarks

In a live benchmark a model is asked for the program of each case. The tokens it took are asked for
once a case is done, and they have a price.
-/

namespace CallTree

/-- Prices of a million tokens. -/
structure Prices (κ : Type) where
  prompt : κ
  completion : κ

/-- Why a live benchmark cannot be set up. -/
inductive PriceFault where
  | negative
  deriving DecidableEq, Repr

instance : Described PriceFault where
  label _ := "ValueError"
  wording? _ := some "Token prices cannot be negative"

section

variable {κ : Type} [Measure κ]

/-- Prices that are not negative. -/
def Prices.make (prompt completion : κ) : Except PriceFault (Prices κ) :=
  let zero : κ := Measure.ofCount 0
  if Measure.less prompt zero || Measure.less completion zero then .error .negative
  else .ok ⟨prompt, completion⟩

/-- What some tokens cost. -/
def Prices.cost (p : Prices κ) (u : Usage) : κ :=
  (Measure.ofCount u.prompt * p.prompt + Measure.ofCount u.completion * p.completion) /
    Measure.ofCount 1000000

end

/-- Whether a failure blames a value. -/
def Fault.blamesValue : Fault → Bool
  | .rejected _ => true
  | .toolMissing _ => true
  | .refused _ => true
  | .badValue => true
  | .notJson (.longNumeral _) _ => true
  | _ => false

/-- Where a case failed for which there is no program. -/
def GenerationFault.kind : GenerationFault → FailureKind
  | .rejected (.notJson (.malformed _ _) _) => .parse
  | .rejected _ => .schema
  | .raised (.notJson (.malformed _ _) _) => .parse
  | .raised f => if f.blamesValue then .schema else .provider

/-- A model's answer is not a program as a whole. -/
inductive TreeFault where
  | notProgram
  deriving DecidableEq, Repr

instance : Described TreeFault where
  label _ := "TypeError"
  wording? _ := some "Model did not return a tree program"

variable {σ θ τ κ υ : Type} [Measure κ]

/-- Judges a case for which a model is asked for a program. -/
def judgeLive (g : Generator σ θ τ) (c : Case) : Flow σ θ τ Fault Verdict := do
  let v : Verdict := {}
  match ← Effect.settle (g.generate c.question) with
  | .error (.raised .cancelled) => Effect.fail .cancelled
  | .error e => return v.failed e.kind e
  | .ok (json, t) =>
    let v := v.parsed.valid
    if t.isProgram then
      Effect.ofExcept (v.ofRun c (writtenForm json) (← evalInWorld g.services t))
    else return v.failed .schema TreeFault.notProgram

/-- Asks for the tokens and adds them to a verdict. -/
def withUsage (takeUsage : θ → Usage × θ) (prices : Prices κ) (v : Verdict) :
    Flow σ θ τ Fault (Judged κ) := fun w ↦
  let (u, transport) := takeUsage w.transport
  ⟨.ok ⟨v, u, some (prices.cost u)⟩, { w with transport := transport }, []⟩

/-- The runner of live benchmarks. -/
def liveRunner (g : Generator σ θ τ) (takeUsage : θ → Usage × θ) (prices : Prices κ)
    (clock : Clock κ υ) (provider : String := "openai") : Runner (World σ θ τ) κ υ Case where
  mode := .live
  model := g.config.model
  provider := provider
  clock := clock
  case := id
  judge c := do withUsage takeUsage prices (← judgeLive g c)
  opening c := [("case_id", .str c.id), ("question", .str c.question), ("expected", c.expected)]
  closing r := [("case_id", .str r.id), ("passed", .bool r.checks.passed),
    ("latency_ms", Measure.shown r.latency), ("prompt_tokens", .int r.usage.prompt),
    ("completion_tokens", .int r.usage.completion),
    ("estimated_cost_usd", (r.cost.map Measure.shown).getD (.int 0)),
    ("failure_category", failureValue r.failure), ("error", .text? r.error), ("actual", r.actual),
    ("expected", r.expected)]
  ending := [("mode", .str RunMode.live.word)]

end CallTree
