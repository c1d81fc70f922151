import CallTree.Command.Documents
import CallTree.Command.Evaluate
import CallTree.Command.Release

/-!
# The programs of the library
-/

namespace CallTree.Command

variable {ς τ : Type}

/-- A program by its name. -/
def program? (setting : Setting ς τ) (name : String) : Option (List String → Step ς τ Nat) :=
  [(offlineForm.name, evaluate setting), (liveForm.name, evaluateWithModel setting),
    (releaseForm.name, checkRelease setting), (smokeForm.name, testRelease setting),
    (referenceForm.name, documentApi setting), ("check_cookbooks", checkNotebooks setting)].lookup
    name

/-- The exit status of a program. -/
def exitStatus : Except Stop Nat → Nat
  | .ok n => n
  | .error (.refused _) => 2
  | .error (.failed _ _) => 1

end CallTree.Command
