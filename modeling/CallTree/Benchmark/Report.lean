import CallTree.Benchmark.Measure

/-!
# Reports of benchmarks

The result of a case says how far the case came: whether its text was JSON, whether that was a
program, whether the program ran, whether its answer was the expected one and whether it used the
tools it had to. A case has passed when it has done all of this.
-/

namespace CallTree

/-- Where a case failed. -/
inductive FailureKind where
  | dataset
  | parse
  | schema
  | execution
  | provider
  | correctness
  | internal
  deriving DecidableEq, Repr

/-- The word for a category in reports. -/
def FailureKind.word : FailureKind → String
  | .dataset => "dataset"
  | .parse => "parse"
  | .schema => "schema"
  | .execution => "execution"
  | .provider => "provider"
  | .correctness => "correctness"
  | .internal => "internal"

/-- The categories. -/
def FailureKind.all : List FailureKind :=
  [.dataset, .parse, .schema, .execution, .provider, .correctness, .internal]

/-- How far a case came. -/
structure Checks where
  parsed : Bool := false
  valid : Bool := false
  executed : Bool := false
  correct : Bool := false
  toolsUsed : Bool := false
  deriving DecidableEq, Repr

/-- Whether a case has passed. -/
def Checks.passed (c : Checks) : Bool :=
  c.parsed && c.valid && c.executed && c.correct && c.toolsUsed

/-- Tokens of requests and of answers. -/
structure Usage where
  prompt : Nat := 0
  completion : Nat := 0
  deriving DecidableEq, Repr

instance : Add Usage := ⟨fun a b ↦ ⟨a.prompt + b.prompt, a.completion + b.completion⟩⟩

/-- The result of a case. -/
structure CaseReport (κ : Type) where
  id : String
  question : String
  expected : Value
  actual : Value := .null
  checks : Checks := {}
  latency : κ
  usage : Usage := {}
  /-- What the case cost, if a model was asked. -/
  cost : Option κ := none
  model : String
  provider : String
  failure : Option FailureKind := none
  error : Option String := none

/-- What a case cost. -/
def CaseReport.costOrZero {κ : Type} [Measure κ] (c : CaseReport κ) : κ :=
  c.cost.getD (Measure.ofCount 0)

/-- Whether programs were given or made by a model. -/
inductive RunMode where
  | offline
  | live
  deriving DecidableEq, Repr

/-- The word for a mode in reports. -/
def RunMode.word : RunMode → String
  | .offline => "offline"
  | .live => "live"

/-- The result of a benchmark. -/
structure RunReport (κ : Type) where
  version : String
  mode : RunMode := .offline
  duration : κ
  model : String
  provider : String
  cases : List (CaseReport κ)

namespace RunReport

variable {κ : Type}

/-- The number of cases that passed. -/
def passed (r : RunReport κ) : Nat := r.cases.countP (·.checks.passed)

/-- The number of cases. -/
def total (r : RunReport κ) : Nat := r.cases.length

/-- The share of cases that passed. -/
def passRate [Measure κ] (r : RunReport κ) : κ := Measure.perCount r.passed r.total

end RunReport

end CallTree
