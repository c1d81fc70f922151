import CallTree.Benchmark.Gate
import CallTree.Value.Equal

/-!
# The written form of results

Results, comparisons and tolerances as mappings, the form in which they are kept in files. A whole
number stands for a measure too.
-/

namespace CallTree

/-! ## Writing -/

variable {κ : Type} [Measure κ]

/-- The form of a cost. -/
def costValue : Option κ → Value
  | some x => Measure.shown x
  | none => .int 0

/-- The form of a report of a case. -/
def CaseReport.toValue (c : CaseReport κ) : Value :=
  .record [("case_id", .str c.id), ("question", .str c.question), ("expected", c.expected),
    ("actual", c.actual), ("parse_success", .bool c.checks.parsed),
    ("schema_valid", .bool c.checks.valid), ("execution_success", .bool c.checks.executed),
    ("answer_correct", .bool c.checks.correct), ("required_tools_used", .bool c.checks.toolsUsed),
    ("latency_ms", Measure.shown c.latency), ("prompt_tokens", .int c.usage.prompt),
    ("completion_tokens", .int c.usage.completion), ("estimated_cost_usd", costValue c.cost),
    ("model", .str c.model), ("provider", .str c.provider),
    ("failure_category", .text? (c.failure.map FailureKind.word)), ("error", .text? c.error),
    ("passed", .bool c.checks.passed)]

/-- The form of a report. -/
def RunReport.toValue (r : RunReport κ) : Value :=
  .record [("dataset_version", .str r.version), ("mode", .str r.mode.word),
    ("duration_ms", Measure.shown r.duration), ("model", .str r.model),
    ("provider", .str r.provider),
    ("results", .list (r.cases.map CaseReport.toValue)), ("passed", .int r.passed),
    ("total", .int r.total), ("pass_rate", Measure.shown (r.passRate : κ))]

/-- The form of metrics. -/
def Metrics.toValue (m : Metrics κ) : Value :=
  .record (Quality.all.map (fun q ↦ (q.metric, Measure.shown (m.rate q))) ++
    [("mean_latency_ms", Measure.shown m.meanLatency),
      ("max_latency_ms", Measure.shown m.maxLatency),
      ("prompt_tokens", .int m.usage.prompt), ("completion_tokens", .int m.usage.completion),
      ("estimated_cost_usd", Measure.shown m.cost)])

/-- The form of an amount. -/
def Amount.toValue : Amount κ → Value
  | .text s => .str s
  | .count n => .int n
  | .measure x => Measure.shown x

/-- The form of an issue. -/
def Issue.toValue (i : Issue κ) : Value :=
  .record [("kind", .str i.kind.word), ("metric", .str i.metric), ("baseline", i.baseline.toValue),
    ("current", i.current.toValue), ("limit", i.limit.toValue)]

/-- The form of a comparison. -/
def Comparison.toValue (c : Comparison κ) : Value :=
  .record [("dataset_version", .str c.version), ("mode", .str c.mode.word), ("model", .str c.model),
    ("provider", .str c.provider), ("compatible", .bool c.compatible),
    ("baseline_metrics", c.baseline.toValue), ("current_metrics", c.current.toValue),
    ("issues", .list (c.issues.map Issue.toValue)), ("passed", .bool c.passed)]

/-! ## Reading -/

namespace Value

/-- A measure. -/
def measure? : Value → Option Float
  | .float x => some x
  | .int n => Decimal.ofInt? n
  | _ => none

/-- A count. -/
def count? : Value → Option Nat
  | .int (.ofNat n) => some n
  | _ => none

/-- What a mapping holds under a text, read as something; a default stands in where it holds
nothing. -/
def getAs {α : Type} (v : Value) (key : String) (as? : Value → Option α) (otherwise : Option α) :
    Option α :=
  match v.get? key with
  | some x => as? x
  | none => otherwise

/-- A text or null. -/
def optionalText? : Value → Option (Option String)
  | .null => some none
  | .str s => some (some s)
  | _ => none

end Value

/-- The category of a word. -/
def FailureKind.ofWord? (w : String) : Option FailureKind :=
  FailureKind.all.find? (·.word = w)

/-- The mode of a word. -/
def RunMode.ofWord? (w : String) : Option RunMode :=
  [RunMode.offline, .live].find? (·.word = w)

/-- A category, or null for none. -/
def FailureKind.ofValue? : Value → Option (Option FailureKind)
  | .null => some none
  | .str w => (FailureKind.ofWord? w).map some
  | _ => none

/-- Reads the result of a case. -/
def CaseReport.ofValue? (v : Value) : Option (CaseReport Float) := do
  let flag (key : String) := v.getAs key Value.bool? (some false)
  return {
    id := ← v.getAs "case_id" Value.str? none
    question := ← v.getAs "question" Value.str? none
    expected := ← v.get? "expected"
    actual := ← v.getAs "actual" some (some .null)
    checks := {
      parsed := ← flag "parse_success"
      valid := ← flag "schema_valid"
      executed := ← flag "execution_success"
      correct := ← flag "answer_correct"
      toolsUsed := ← flag "required_tools_used" }
    latency := ← v.getAs "latency_ms" Value.measure? none
    usage := {
      prompt := ← v.getAs "prompt_tokens" Value.count? (some 0)
      completion := ← v.getAs "completion_tokens" Value.count? (some 0) }
    cost := ← v.getAs "estimated_cost_usd" (fun x ↦ x.measure?.map some) (some none)
    model := ← v.getAs "model" Value.str? none
    provider := ← v.getAs "provider" Value.str? none
    failure := ← v.getAs "failure_category" FailureKind.ofValue? (some none)
    error := ← v.getAs "error" Value.optionalText? (some none) }

/-- Reads a result. -/
def RunReport.ofValue? (v : Value) : Option (RunReport Float) := do
  return {
    version := ← v.getAs "dataset_version" Value.str? none
    mode := ← v.getAs "mode" (fun w ↦ w.str?.bind RunMode.ofWord?) (some .offline)
    duration := ← v.getAs "duration_ms" Value.measure? none
    model := ← v.getAs "model" Value.str? none
    provider := ← v.getAs "provider" Value.str? none
    cases := ← (← v.getAs "results" Value.list? none).mapM CaseReport.ofValue? }

/-- The name of the tolerance for the rate of a quality. -/
def Quality.tolerance (q : Quality) : String := "max_" ++ q.metric ++ "_drop"

/-- Reads tolerances. Without others, rates and amounts may not get worse, save that latencies may
grow by half and by 25 or 50 milliseconds. -/
def Tolerances.ofValue? (v : Value) : Option (Tolerances Float) := do
  let amount (key : String) (otherwise : Float) := v.getAs key Value.measure? (some otherwise)
  let drops ← Quality.all.mapM fun q ↦ (amount q.tolerance 0.0).map (q, ·)
  return {
    drop := fun q ↦ (drops.lookup q).getD 0.0
    latencyRatio := ← amount "latency_ratio" 0.5
    meanLatencyAbsolute := ← amount "mean_latency_absolute_ms" 25.0
    maxLatencyAbsolute := ← amount "max_latency_absolute_ms" 50.0
    tokenRatio := ← v.getAs "token_ratio" (fun x ↦ x.measure?.map some) (some none)
    tokenAbsolute := ← v.getAs "token_absolute" Value.count? (some 0)
    costRatio := ← amount "cost_ratio" 0.0
    costAbsolute := ← amount "cost_absolute_usd" 0.0 }

end CallTree
