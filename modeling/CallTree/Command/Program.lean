import CallTree.Command.Help
import CallTree.Effect
import CallTree.Files.Folder
import CallTree.Model.Client
import CallTree.Model.Config
import CallTree.Notebook.Check
import CallTree.Reference.Public
import CallTree.Report.Event
import CallTree.Tree.Check

/-!
# Programs

A program takes arguments and works at a desk: it reads and writes files, prints lines, asks whether
a checkout is part of the main line of development, and talks to a client of a model service. It
ends with a status; or its arguments are refused; or it fails. Events of what it does are its trace.
-/

namespace CallTree.Command

open CallTree.Files

/-- What programs find in place. -/
structure Setting (ς τ : Type) where
  environment : Config.Environment
  client : Client ς
  clock : Clock Float τ
  /-- How values that are no programs are accounted for. -/
  account : Account
  package : Reference.Package
  /-- Whether a checkout is part of the main line of development. -/
  isOnMainLine : Bool
  /-- The folder with notebooks, and what is in it. -/
  notebooks : Path × List Notebook.Book

/-- What programs work on. -/
structure Desk (ς τ : Type) where
  folder : Folder
  client : ς
  clock : τ
  /-- The lines printed so far. -/
  printed : List String := []
  /-- The folders for which it was asked whether they are part of the main line. -/
  asked : List String := []

/-- How a program can end early. -/
inductive Stop where
  /-- Its arguments are refused. -/
  | refused (text : String)
  /-- It fails, with the label and the wording of a cause. -/
  | failed (label : String) (wording : Option String)
  deriving DecidableEq, Repr

/-- Ends with a cause. -/
def Stop.because {ε : Type} [Described ε] (e : ε) : Stop :=
  .failed (Described.label e) (Described.wording? e)

/-- A step of a program. -/
abbrev Step (ς τ α : Type) := Effect (Desk ς τ) Stop Report.Event α

namespace Step

variable {ς τ α ε : Type}

/-- A result that may be a cause to end. -/
def orStop [Described ε] (r : Except ε α) : Step ς τ α := Effect.ofExcept (r.mapError Stop.because)

/-- Prints a line. -/
def print (line : String) : Step ς τ Unit := fun d ↦
  ⟨.ok (), { d with printed := d.printed ++ [line] }, []⟩

/-- Looks at the files. -/
def look (f : Folder → α) : Step ς τ α := fun d ↦ ⟨.ok (f d.folder), d, []⟩

/-- Reads a file. -/
def readFile (p : Path) : Step ς τ String := do
  orStop (← look (·.read p))

/-- Writes a file, and makes the folders on the way to it. -/
def writeFile (p : Path) (s : String) : Step ς τ Unit := fun d ↦
  match d.folder.put p s with
  | .ok folder => ⟨.ok (), { d with folder := folder }, []⟩
  | .error e => ⟨.error (.because e), d, []⟩

/-- Asks whether a checkout is part of the main line of development. -/
def askMainLine (setting : Setting ς τ) (checkout : String) : Step ς τ Bool := fun d ↦
  ⟨.ok setting.isOnMainLine, { d with asked := d.asked ++ [checkout] }, []⟩

/-- Takes the arguments of a command. If help is asked for, it is printed and nothing is done. -/
def withArguments (f : Form) (args : List String) (body : Arguments → Step ς τ Nat) :
    Step ς τ Nat :=
  match readArguments f.opts args with
  | .ok a => body a
  | .error .help => do
    print f.help
    return 0
  | .error (.refused e) => Effect.fail (.refused e.text)

end Step

/-- What was printed, as a text. -/
def Desk.output {ς τ : Type} (d : Desk ς τ) : String := String.join (d.printed.map (· ++ "\n"))

/-- The path given for an option. -/
def Arguments.path? (a : Arguments) (o : Opt) : Option Path := (a.text? o).map Path.ofText

end CallTree.Command
