import CallTree.Benchmark.Report
import CallTree.Eval.Basic
import CallTree.Json.Write
import CallTree.Text.Case
import CallTree.Text.Search

/-!
# Cases and verdicts

A case is a question with the expected answer and the words that the written form of its program has
to contain, whatever the case of their letters. An offline case brings its program along, as a
mapping or as text. The verdict on a case says how far it came and why it failed; it is filled in
stage by stage as the case is judged.
-/

namespace CallTree

/-- A question with its expected answer. -/
structure Case where
  id : String
  question : String
  expected : Value
  mustUse : List String := []

/-- A case that brings its program along. -/
structure OfflineCase extends Case where
  /-- The program: a mapping, or text that should be one. -/
  program : Value

/-- Cases with a version. -/
structure Dataset (γ : Type) where
  version : String
  cases : List γ

/-- The verdict on a case, as far as it is known. -/
structure Verdict where
  actual : Value := .null
  checks : Checks := {}
  failure : Option FailureKind := none
  error : Option String := none

namespace Verdict

/-- The text of the program was read. -/
def parsed (v : Verdict) : Verdict := { v with checks.parsed := true }

/-- The program was found valid. -/
def valid (v : Verdict) : Verdict := { v with checks.valid := true }

/-- The program has run to its end. -/
def executed (v : Verdict) (actual : Value) : Verdict :=
  { v with actual := actual, checks.executed := true }

/-- The case failed before its program had run to its end. -/
def failed {ε : Type} [Described ε] (v : Verdict) (kind : FailureKind) (cause : ε) : Verdict :=
  { v with failure := some kind, error := some (summary cause) }

end Verdict

/-- The JSON text of the mapping that a program is given in. -/
def writtenForm (v : Value) : Except Fault String :=
  (Json.write .compact v).mapError .ofWriting

/-- Whether the written form of a program contains all words it has to. -/
def usesAll (mustUse : List String) (written : String) : Bool :=
  let written := Text.lower written
  mustUse.all fun word ↦ Text.occursIn (Text.lower word) written

/-- The answer is compared with the expected one, and the words asked for are looked up. -/
def Verdict.compared (v : Verdict) (c : Case) (written : String) : Verdict :=
  let correct := v.actual.equal c.expected
  let used := usesAll c.mustUse written
  { v with
    checks.correct := correct
    checks.toolsUsed := used
    failure := if correct && used then v.failure else some .correctness }

/-- The program was run with some result. The written form is looked at only if the program has run
to its end. Work that was called off has no verdict. -/
def Verdict.ofRun (v : Verdict) (c : Case) (written : Except Fault String) :
    Except EvalFault Value → Except Fault Verdict
  | .ok actual => written.map ((v.executed actual).compared c)
  | .error (.raised .cancelled) => .error .cancelled
  | .error e => .ok (v.failed .execution e)

end CallTree
