import CallTree.Benchmark.Runner
import CallTree.Tree.Check

/-!
# Offline benchmarks

The programs of an offline benchmark are given. A program in a mapping is written as JSON first, so
that it goes the same way as a program in a text: it is read, checked and run.
-/

namespace CallTree

/-- The given text of a case, or the text of its mapping. -/
def OfflineCase.text (c : OfflineCase) : Except Fault String :=
  match c.program with
  | .str s => .ok s
  | v => writtenForm v

/-- Why a text is no program. -/
inductive ProgramFault where
  | notMapping
  | rejected (refusal : Refusal)
  deriving DecidableEq, Repr

instance : Described ProgramFault where
  label
    | .notMapping => "ValueError"
    | .rejected r => Described.label r
  wording?
    | .notMapping => some "AST root must be a JSON object"
    | .rejected r => Described.wording? r

/-- The program in a value. -/
def programOf (account : Account) (v : Value) : Except ProgramFault Tree :=
  match v with
  | .map es => (parseOrRefuse account (.map es)).mapError .rejected
  | _ => .error .notMapping

variable {σ κ τ : Type} [Measure κ]

/-- Judges a case whose program stands in a text, from the verdict so far. A numeral in it that is
too long to be read has no verdict. -/
def judgeText (account : Account) (p : Provider σ) (c : Case) (text : String) (v : Verdict) :
    Attempt σ Fault Verdict := fun s ↦
  match Json.read text with
  | .error (.longNumeral n) => (.error (.notJson (.longNumeral n) text), s)
  | .error f => (.ok (v.failed .parse (Fault.notJson f text)), s)
  | .ok form =>
    let v := v.parsed
    match programOf account form with
    | .error f => (.ok (v.failed .schema f), s)
    | .ok t =>
      let v := v.valid
      let o := run p t s
      (v.ofRun c (.ok text) o.result, o.state)

/-- Judges an offline case. A number in its mapping that is too long to be written has no verdict
either. -/
def judgeOffline (account : Account) (p : Provider σ) (c : OfflineCase) :
    Attempt σ Fault Verdict := fun s ↦
  let v : Verdict := {}
  match c.text with
  | .error .badValue => (.error .badValue, s)
  | .error e => (.ok (v.failed .parse e), s)
  | .ok text => judgeText account p c.toCase text v s

/-- A category, or null. -/
def failureValue (f : Option FailureKind) : Value := .text? (f.map FailureKind.word)

/-- The runner of offline benchmarks. -/
def offlineRunner (account : Account) (p : Provider σ) (clock : Clock κ τ)
    (model : String := "curated-ast-v1") (provider : String := "offline-tools-v1") :
    Runner σ κ τ OfflineCase where
  mode := .offline
  model := model
  provider := provider
  clock := clock
  case := OfflineCase.toCase
  judge c := Effect.attempt fun s ↦
    let (r, s) := judgeOffline account p c s
    (r.map fun verdict ↦ { verdict := verdict }, s)
  opening c := [("case_id", .str c.id), ("question", .str c.question), ("expected", c.expected),
    ("ast", c.program)]
  closing r := [("case_id", .str r.id), ("passed", .bool r.checks.passed),
    ("parse_success", .bool r.checks.parsed), ("schema_valid", .bool r.checks.valid),
    ("execution_success", .bool r.checks.executed), ("answer_correct", .bool r.checks.correct),
    ("required_tools_used", .bool r.checks.toolsUsed), ("latency_ms", Measure.shown r.latency),
    ("model", .str r.model), ("provider", .str r.provider),
    ("failure_category", failureValue r.failure), ("error", .text? r.error), ("actual", r.actual),
    ("expected", r.expected)]

end CallTree
