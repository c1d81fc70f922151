import CallTree.Benchmark.Case
import CallTree.Report.Clock
import CallTree.Report.Event

/-!
# Running benchmarks

A benchmark goes through the cases of a dataset. Each case is judged in some world and timed by a
clock; an event is sent out before and after the whole and before and after each case. How a case is
judged, and which attributes its events carry, is up to the kind of benchmark.
-/

namespace CallTree

/-- A world and a clock. -/
structure Timed (ω τ : Type) where
  world : ω
  clock : τ

/-- What judging a case gives: the verdict, the tokens and the cost. -/
structure Judged (κ : Type) where
  verdict : Verdict
  usage : Usage := {}
  cost : Option κ := none

/-- A kind of benchmark. -/
structure Runner (ω κ τ γ : Type) where
  mode : RunMode
  model : String
  provider : String
  clock : Clock κ τ
  case : γ → Case
  judge : γ → Effect ω Fault Report.Event (Judged κ)
  /-- The attributes of the event before a case. -/
  opening : γ → List (String × Value)
  /-- The attributes of the event after a case. -/
  closing : CaseReport κ → List (String × Value)
  /-- Further attributes of the event after the whole. -/
  ending : List (String × Value) := []

namespace Runner

variable {ω κ τ γ ε : Type} [Measure κ]

/-- Reads the clock. -/
def now (b : Runner ω κ τ γ) : Effect (Timed ω τ) ε Report.Event κ := fun s ↦
  let (x, clock) := b.clock.now s.clock
  ⟨.ok x, { s with clock := clock }, []⟩

/-- An effect on the world. -/
def inWorld {α : Type} (x : Effect ω ε Report.Event α) : Effect (Timed ω τ) ε Report.Event α :=
  fun s ↦
    let o := x s.world
    ⟨o.result, { s with world := o.state }, o.trace⟩

/-- Sends out an event. -/
def emit (name : String) (attributes : List (String × Value)) :
    Effect (Timed ω τ) ε Report.Event Unit :=
  Effect.note ⟨name, attributes⟩

/-- The time since a reading of the clock, in milliseconds; a clock that goes backwards gives
zero. -/
def millisecondsSince (started finished : κ) : κ :=
  Measure.positivePart ((finished - started) * Measure.ofCount 1000)

/-- The report on a case. -/
def report (b : Runner ω κ τ γ) (c : γ) (j : Judged κ) (latency : κ) : CaseReport κ where
  id := (b.case c).id
  question := (b.case c).question
  expected := (b.case c).expected
  actual := j.verdict.actual
  checks := j.verdict.checks
  latency := latency
  usage := j.usage
  cost := j.cost
  model := b.model
  provider := b.provider
  failure := j.verdict.failure
  error := j.verdict.error

/-- Runs a case. -/
def runCase (b : Runner ω κ τ γ) (c : γ) :
    Effect (Timed ω τ) Fault Report.Event (CaseReport κ) := do
  let started ← b.now
  emit "benchmark.case.started" (b.opening c)
  let j ← inWorld (b.judge c)
  let finished ← b.now
  let r := b.report c j (millisecondsSince started finished)
  emit "benchmark.case.completed" (b.closing r)
  return r

/-- Runs a benchmark. -/
def run (b : Runner ω κ τ γ) (d : Dataset γ) :
    Effect (Timed ω τ) Fault Report.Event (RunReport κ) := do
  let started ← b.now
  emit "benchmark.started" [("dataset_version", .str d.version), ("mode", .str b.mode.word),
    ("model", .str b.model), ("provider", .str b.provider), ("case_count", .int d.cases.length)]
  let cases ← Effect.each b.runCase d.cases
  let finished ← b.now
  let r : RunReport κ := {
    version := d.version
    mode := b.mode
    duration := millisecondsSince started finished
    model := b.model
    provider := b.provider
    cases := cases }
  emit "benchmark.completed" ([("dataset_version", .str d.version)] ++ b.ending ++
    [("duration_ms", Measure.shown r.duration), ("passed", .int r.passed), ("total", .int r.total),
      ("pass_rate", Measure.shown (r.passRate : κ))])
  return r

end Runner

end CallTree
