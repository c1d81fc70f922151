import CallTree.Command.Program
import CallTree.Release.Check
import CallTree.Release.Smoke

/-!
# Checking releases from the command line

One program checks a release by its tag before it is built, another tests it once it is installed.
Without a folder, the release that is checked is the library's own.
-/

namespace CallTree.Command

open CallTree.Files CallTree.Release

variable {ς τ : Type}

/-! ## Before a release -/

/-- The option for the tag. -/
def tagOpt : Opt := ⟨["--tag"], .text, true⟩

/-- The option for the folder of a project. -/
def rootOpt : Opt := ⟨["--root"], .text, false⟩

/-- The option that asks for a release of the main line. -/
def mainLineOpt : Opt := ⟨["--require-main"], .nothing, false⟩

/-- The command that checks a release. -/
def releaseForm : Form where
  name := "validate_release"
  about := "Validate release identity before building or publishing distributions."
  opts := [tagOpt, rootOpt, mainLineOpt]

/-- The settings of the library's own release. -/
def ownSettings : String := "[project]\nversion = \"" ++ Reference.released.version ++ "\"\n"

/-- The changelog of the library's own release. -/
def ownChangelog : String := sectionMark Reference.released.version ++ "\n"

/-- How a program ends with a release that is not in order. Only settings of a wrong kind are taken
for a failure of the program. -/
def stopRelease (e : ReleaseFault) : Stop :=
  match e with
  | .notTable => .because e
  | e => .refused e.text

/-- The version of the release in a folder, or of the library's own. -/
def versionOf (root : Option Path) (tag : String) : Step ς τ String := do
  let r ← Step.look fun f ↦
    match root with
    | some root => validateIn Text.decimalDigits f root tag
    | none => validate Text.decimalDigits tag (.ok ownSettings) (.ok ownChangelog)
  Effect.ofExcept (r.mapError stopRelease)

/-- The program that checks a release. -/
def checkRelease (setting : Setting ς τ) (args : List String) : Step ς τ Nat :=
  Step.withArguments releaseForm args fun a ↦ do
    let root := a.path? rootOpt
    let version ← versionOf root ((a.text? tagOpt).getD "")
    if a.has mainLineOpt then
      if !(← Step.askMainLine setting ((root.map Path.text).getD "")) then
        Effect.fail (stopRelease .notOnMainLine)
    Step.print ("Validated release " ++ version)
    return 0

/-! ## After a release -/

/-- The option for the version that should be installed. -/
def expectedOpt : Opt := ⟨["--expected-version"], .text, true⟩

/-- The option that asks for an installed package. -/
def installedOpt : Opt := ⟨["--require-installed"], .nothing, false⟩

/-- The command that tests an installed package. -/
def smokeForm : Form where
  name := "smoke_release"
  about := "Smoke-test the supported API from an installed release artifact."
  opts := [expectedOpt, installedOpt]

/-- The program that tests an installed package. -/
def testRelease (setting : Setting ς τ) (args : List String) : Step ς τ Nat :=
  Step.withArguments smokeForm args fun a ↦ do
    let expected := (a.text? expectedOpt).getD ""
    Step.orStop (smoke setting.package expected (a.has installedOpt))
    Step.print ("Installed treelang " ++ expected ++ " passed smoke tests")
    return 0

end CallTree.Command
