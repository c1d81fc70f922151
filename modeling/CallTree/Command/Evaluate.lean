import CallTree.Benchmark.Dataset
import CallTree.Benchmark.Live
import CallTree.Command.Program
import CallTree.Decimal.Place
import CallTree.Json.Indent
import CallTree.Sample.Atlas
import CallTree.Sample.Datasets

/-!
# Running benchmarks from the command line

The offline benchmark compares its results with a baseline, and the comparison decides together with
the cases whether it ends well. The live benchmark asks a model. Results and comparisons can be kept
in files.
-/

namespace CallTree.Command

open CallTree.Files

variable {ς τ : Type}

/-! ## What both share -/

/-- A file that does not hold what it should. -/
inductive ContentFault where
  | invalid
  deriving DecidableEq, Repr

instance : Described ContentFault where
  label _ := "ValidationError"
  wording? _ := none

/-- Reads a file of a form, or takes what comes with the library if no file is named. -/
def readOr {α : Type} (p : Option Path) (shipped : α) (form? : String → Option α) :
    Step ς τ α :=
  match p with
  | none => return shipped
  | some p => do
    match form? (← Step.readFile p) with
    | some a => return a
    | none => Effect.fail (.because ContentFault.invalid)

/-- The form of a JSON text. -/
def jsonAs {α : Type} (form? : Value → Option α) (text : String) : Option α :=
  (Json.read text).toOption.bind form?

/-- Keeps a value in a file. -/
def keep (p : Path) (v : Value) : Step ς τ Unit :=
  match Json.writeIndented v with
  | .ok s => Step.writeFile p (s ++ "\n")
  | .error _ => Effect.fail (.because ContentFault.invalid)

/-- Runs a benchmark in a world made from the desk. -/
def runOn {ω γ : Type} (b : Runner ω Float τ γ) (d : Dataset γ) (world : Desk ς τ → ω)
    (client : ω → ς → ς) : Step ς τ (RunReport Float) := fun desk ↦
  let o := b.run d ⟨world desk, desk.clock⟩
  ⟨o.result.mapError Stop.because,
    { desk with client := client o.state.world desk.client, clock := o.state.clock }, o.trace⟩

/-- The line on a run. -/
def runLine (kind : String) (r : RunReport Float) : String :=
  kind ++ " evaluation v" ++ r.version ++ s!": {r.passed}/{r.total} passed (" ++
    Decimal.percent 1 r.passRate ++ ")"

/-! ## The offline benchmark -/

/-- The option for the dataset. -/
def datasetOpt : Opt := ⟨["--dataset"], .text, false⟩

/-- The option for a file that results are kept in. -/
def outputOpt : Opt := ⟨["--output"], .text, false⟩

/-- The option for the baseline. -/
def baselineOpt : Opt := ⟨["--baseline"], .text, false⟩

/-- The option for the tolerances. -/
def tolerancesOpt : Opt := ⟨["--tolerances"], .text, false⟩

/-- The option for a file that the comparison is kept in. -/
def comparisonOpt : Opt := ⟨["--comparison-output"], .text, false⟩

/-- The command for the offline benchmark. -/
def offlineForm : Form where
  name := "eval"
  about := "Command-line entry point for the deterministic offline benchmark."
  opts := [datasetOpt, outputOpt, baselineOpt, tolerancesOpt, comparisonOpt]

/-- Runs the offline benchmark and compares its results. -/
def evaluateOffline (setting : Setting ς τ) (dataset output baseline tolerances comparison :
    Option Path) : Step ς τ Nat := do
  let d ← readOr dataset Sample.offlineDataset (jsonAs offlineDataset?)
  let b := offlineRunner setting.account (Builtin.provider Sample.atlas) setting.clock
  let r ← runOn b d (fun _ ↦ none) (fun _ client ↦ client)
  if let some p := output then keep p r.toValue
  let base ← readOr baseline Sample.baseline (jsonAs RunReport.ofValue?)
  let t ← readOr tolerances Sample.tolerances (jsonAs Tolerances.ofValue?)
  let c := r.against base t
  if let some p := comparison then keep p c.toValue
  Step.print (runLine "Offline" r)
  if !c.passed then
    Step.print s!"Regression comparison failed with {c.issues.length} issue(s)."
  return if r.passed == r.total && c.passed then 0 else 1

/-- The program for the offline benchmark. -/
def evaluate (setting : Setting ς τ) (args : List String) : Step ς τ Nat :=
  Step.withArguments offlineForm args fun a ↦
    evaluateOffline setting (a.path? datasetOpt) (a.path? outputOpt) (a.path? baselineOpt)
      (a.path? tolerancesOpt) (a.path? comparisonOpt)

/-! ## The live benchmark -/

/-- The option for the version of a dataset. -/
def versionOpt : Opt := ⟨["--dataset-version"], .text, false⟩

/-- The option for a file that results have to be kept in. -/
def resultOpt : Opt := ⟨["--output"], .text, true⟩

/-- The option for the model. -/
def modelOpt : Opt := ⟨["--model"], .text, false⟩

/-- The option for the price of a prompt. -/
def promptPriceOpt : Opt := ⟨["--input-cost-per-million"], .number, false⟩

/-- The option for the price of a completion. -/
def completionPriceOpt : Opt := ⟨["--output-cost-per-million"], .number, false⟩

/-- The command for the live benchmark. -/
def liveForm : Form where
  name := "live_eval"
  about := "Command-line entry point for credentialed live-model evaluation."
  opts := [datasetOpt, versionOpt, resultOpt, modelOpt, promptPriceOpt, completionPriceOpt]

/-- Runs the live benchmark. -/
def evaluateLive (setting : Setting ς τ) (a : Arguments) : Step ς τ Nat := do
  let version := (a.text? versionOpt).getD liveVersion
  let d ← readOr (a.path? datasetOpt) { Sample.liveDataset with version := version }
    (liveDataset? Case.ofLine? version)
  let config ← Step.orStop (Config.ofEnvironment setting.environment (a.text? modelOpt))
  let prices ← Step.orStop
    (Prices.make ((a.number? promptPriceOpt).getD 0.0) ((a.number? completionPriceOpt).getD 0.0))
  let g : Generator (Option (Registry Value)) (ClientState ς) τ := {
    services := ⟨Builtin.provider Sample.atlas, setting.client.transport, setting.clock⟩
    config := config
    account := setting.account }
  let b := liveRunner g ClientState.takeUsage prices setting.clock
  let r ← runOn b d (fun desk ↦ ⟨none, { client := desk.client }, desk.clock⟩)
    (fun world _ ↦ world.transport.client)
  keep ((a.path? resultOpt).getD (Path.ofText "")) r.toValue
  Step.print (runLine "Live" r)
  return if r.passed == r.total then 0 else 1

/-- The program for the live benchmark. -/
def evaluateWithModel (setting : Setting ς τ) (args : List String) : Step ς τ Nat :=
  Step.withArguments liveForm args (evaluateLive setting)

end CallTree.Command
