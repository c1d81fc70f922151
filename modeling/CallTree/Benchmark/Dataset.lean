import CallTree.Benchmark.Case
import CallTree.Benchmark.Form
import CallTree.Json.Read
import CallTree.Text.Digit
import CallTree.Text.Lines

/-!
# Files with datasets

The cases of an offline benchmark stand in one JSON text together with their version; those of a
live benchmark stand one to a line, and blank lines are passed over.
-/

namespace CallTree

/-- A text that is not empty. -/
def Value.filledText? : Value → Option String
  | .str s => Text.filled? (some s)
  | _ => none

/-- A list of texts. -/
def Value.textList? (v : Value) : Option (List String) := v.list?.bind (·.mapM Value.str?)

/-- Whether a text is a version: two numerals with a point between them. -/
def isVersion (s : String) : Bool :=
  match (String.toList s).span Text.isDigit with
  | (_ :: _, '.' :: rest) => !rest.isEmpty && rest.all Text.isDigit
  | _ => false

/-- A program as an offline case may bring it along: a mapping or a text. -/
def programSource? : Value → Option Value
  | .map es => some (.map es)
  | .str s => some (.str s)
  | _ => none

/-- Reads an offline case. -/
def OfflineCase.ofValue? (v : Value) : Option OfflineCase := do
  return {
    id := ← v.getAs "id" Value.filledText? none
    question := ← v.getAs "question" Value.filledText? none
    expected := ← v.get? "expected"
    mustUse := ← v.getAs "must_use" Value.textList? (some [])
    program := ← v.getAs "ast" programSource? none }

/-- Reads a dataset for an offline benchmark. -/
def offlineDataset? (v : Value) : Option (Dataset OfflineCase) := do
  let version ← v.getAs "version" Value.str? none
  let cases ← v.getAs "cases" Value.list? none
  if isVersion version then return ⟨version, ← cases.mapM OfflineCase.ofValue?⟩ else none

/-- Reads a live case. -/
def Case.ofValue? (v : Value) : Option Case := do
  return {
    id := ← v.getAs "id" Value.filledText? none
    question := ← v.getAs "q" Value.filledText? none
    expected := ← v.get? "a"
    mustUse := ← v.getAs "must_use" Value.textList? (some []) }

/-- The version of live datasets that name none. -/
def liveVersion : String := "2.0"

/-- Reads a line of a live dataset. -/
def Case.ofLine? (line : String) : Option Case := do
  Case.ofValue? (← (Json.read line).toOption)

/-- Reads a dataset for a live benchmark, given how a line with a case is read. -/
def liveDataset? (readCase : String → Option Case) (version text : String) :
    Option (Dataset Case) := do
  let written := (Text.lines text).filter fun line ↦ !Text.isBlankText line
  if isVersion version then return ⟨version, ← written.mapM readCase⟩ else none

end CallTree
