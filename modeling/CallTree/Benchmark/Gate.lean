import CallTree.Benchmark.Report

/-!
# The regression gate

A result is compared with a baseline of the same identity: the same dataset, mode, model, provider
and cases. Then six rates may drop by no more than their tolerances, and five amounts may grow by no
more than theirs, a tolerance for an amount being a share of the baseline and an allowance on top.
Each criterion that is violated is an issue, and the gate is passed when there is none.
-/

namespace CallTree

/-! ## Metrics -/

/-- What the rate of cases that meet it is looked at for. -/
inductive Quality where
  | pass
  | parse
  | schema
  | execution
  | correctness
  | requiredTools
  deriving DecidableEq, Repr

/-- The qualities, in the order of reports. -/
def Quality.all : List Quality :=
  [.pass, .parse, .schema, .execution, .correctness, .requiredTools]

/-- Whether a case meets a quality. -/
def Quality.met : Quality → Checks → Bool
  | .pass, c => c.passed
  | .parse, c => c.parsed
  | .schema, c => c.valid
  | .execution, c => c.executed
  | .correctness, c => c.correct
  | .requiredTools, c => c.toolsUsed

/-- The name of the rate of a quality. -/
def Quality.metric : Quality → String
  | .pass => "pass_rate"
  | .parse => "parse_rate"
  | .schema => "schema_rate"
  | .execution => "execution_rate"
  | .correctness => "correctness_rate"
  | .requiredTools => "required_tools_rate"

/-- The metrics of a result. -/
structure Metrics (κ : Type) where
  rate : Quality → κ
  meanLatency : κ
  maxLatency : κ
  usage : Usage
  cost : κ

variable {κ : Type} [Measure κ]

/-- The number of cases that meet a quality. -/
def RunReport.count (r : RunReport κ) (q : Quality) : Nat :=
  r.cases.countP fun c ↦ q.met c.checks

/-- The tokens of all cases. -/
def RunReport.usage (r : RunReport κ) : Usage :=
  (r.cases.map (·.usage)).foldl (· + ·) {}

/-- The metrics of a result. Those of no cases are zero. -/
def RunReport.metrics (r : RunReport κ) : Metrics κ where
  rate q := Measure.perCount (r.count q) r.total
  meanLatency :=
    if r.total = 0 then Measure.ofCount 0
    else Measure.total (r.cases.map (·.latency)) / Measure.ofCount r.total
  maxLatency := Measure.largest (r.cases.map (·.latency))
  usage := r.usage
  cost := Measure.total (r.cases.map (·.costOrZero))

/-! ## Issues -/

/-- What kind of criterion is violated. -/
inductive IssueKind where
  | identity
  | quality
  | latency
  | tokens
  | cost
  deriving DecidableEq, Repr

/-- The word for a kind in reports. -/
def IssueKind.word : IssueKind → String
  | .identity => "identity"
  | .quality => "quality"
  | .latency => "latency"
  | .tokens => "tokens"
  | .cost => "cost"

/-- What an issue shows: a text, a count or a measure. -/
inductive Amount (κ : Type) where
  | text (s : String)
  | count (n : Nat)
  | measure (x : κ)
  deriving DecidableEq, Repr

/-- A violated criterion. -/
structure Issue (κ : Type) where
  kind : IssueKind
  metric : String
  baseline : Amount κ
  current : Amount κ
  limit : Amount κ
  deriving DecidableEq, Repr

/-- How much worse than the baseline a result may be. -/
structure Tolerances (κ : Type) where
  /-- How much a rate may drop. -/
  drop : Quality → κ
  latencyRatio : κ
  meanLatencyAbsolute : κ
  maxLatencyAbsolute : κ
  /-- The share by which tokens may grow; without one the limits stay whole numbers. -/
  tokenRatio : Option κ
  tokenAbsolute : Nat
  costRatio : κ
  costAbsolute : κ

/-- An issue if two texts of the identity differ. -/
def identityIssue (metric baseline current : String) : List (Issue κ) :=
  if baseline = current then []
  else [⟨.identity, metric, .text baseline, .text current, .text baseline⟩]

/-- The ids of the cases. -/
def RunReport.caseIds (r : RunReport κ) : List String := r.cases.map (·.id)

/-- An issue if the lists of case ids differ. -/
def caseIssue (baseline current : List String) : List (Issue κ) :=
  if baseline = current then []
  else
    let joined := ",".intercalate baseline
    [⟨.identity, "case_ids", .text joined, .text (",".intercalate current), .text joined⟩]

/-- The violated criteria of identity. -/
def identityIssues (baseline current : RunReport κ) : List (Issue κ) :=
  identityIssue "dataset_version" baseline.version current.version ++
  identityIssue "mode" baseline.mode.word current.mode.word ++
  identityIssue "model" baseline.model current.model ++
  identityIssue "provider" baseline.provider current.provider ++
  caseIssue baseline.caseIds current.caseIds

/-- An issue if a rate has dropped too far. -/
def qualityIssue (baseline current : Metrics κ) (t : Tolerances κ) (q : Quality) :
    List (Issue κ) :=
  let limit := baseline.rate q - t.drop q
  if Measure.less (current.rate q) limit then
    [⟨.quality, q.metric, .measure (baseline.rate q), .measure (current.rate q), .measure limit⟩]
  else []

/-- The limit of an amount. -/
def amountLimit (baseline ratio absolute : κ) : κ :=
  baseline * (Measure.ofCount 1 + ratio) + absolute

/-- An issue if a measure has grown too far. -/
def measureIssue (kind : IssueKind) (metric : String) (baseline current ratio absolute : κ) :
    List (Issue κ) :=
  let limit := amountLimit baseline ratio absolute
  if Measure.less limit current then
    [⟨kind, metric, .measure baseline, .measure current, .measure limit⟩]
  else []

/-- An issue if a number of tokens has grown too far. -/
def tokenIssue (metric : String) (baseline current : Nat) (t : Tolerances κ) : List (Issue κ) :=
  match t.tokenRatio with
  | none =>
    let limit := baseline + t.tokenAbsolute
    if limit < current then [⟨.tokens, metric, .count baseline, .count current, .count limit⟩]
    else []
  | some ratio =>
    let limit := amountLimit (Measure.ofCount baseline) ratio (Measure.ofCount t.tokenAbsolute)
    if Measure.countAbove current limit then
      [⟨.tokens, metric, .count baseline, .count current, .measure limit⟩]
    else []

/-- The violated criteria of quality and of resources. -/
def metricIssues (baseline current : Metrics κ) (t : Tolerances κ) : List (Issue κ) :=
  Quality.all.flatMap (qualityIssue baseline current t) ++
  measureIssue .latency "mean_latency_ms" baseline.meanLatency current.meanLatency
    t.latencyRatio t.meanLatencyAbsolute ++
  measureIssue .latency "max_latency_ms" baseline.maxLatency current.maxLatency
    t.latencyRatio t.maxLatencyAbsolute ++
  tokenIssue "prompt_tokens" baseline.usage.prompt current.usage.prompt t ++
  tokenIssue "completion_tokens" baseline.usage.completion current.usage.completion t ++
  measureIssue .cost "estimated_cost_usd" baseline.cost current.cost t.costRatio t.costAbsolute

/-! ## The comparison -/

/-- A result compared with a baseline. -/
structure Comparison (κ : Type) where
  version : String
  mode : RunMode
  model : String
  provider : String
  /-- Whether the identities agree. -/
  compatible : Bool
  baseline : Metrics κ
  current : Metrics κ
  issues : List (Issue κ)

/-- Whether the gate is passed. -/
def Comparison.passed (c : Comparison κ) : Bool := c.compatible && c.issues.isEmpty

/-- Compares a result with a baseline. Metrics are looked at only if the identities agree. -/
def RunReport.against (current baseline : RunReport κ) (t : Tolerances κ) : Comparison κ :=
  let identity := identityIssues baseline current
  let before := baseline.metrics
  let now := current.metrics
  { version := current.version
    mode := current.mode
    model := current.model
    provider := current.provider
    compatible := identity.isEmpty
    baseline := before
    current := now
    issues := if identity.isEmpty then metricIssues before now t else identity }

end CallTree
