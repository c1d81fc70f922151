import CallTree.Code.Statement
import CallTree.Described
import CallTree.Files.Path
import CallTree.Value.Equal

/-!
# Checking notebooks

Notebooks are kept without traces of a run: their code cells have no number and no outputs. The code
of each cell has to be well formed.
-/

namespace CallTree.Notebook

/-- A cell of a notebook. -/
inductive Cell where
  | code (source : String) (wasRun : Bool)
  | other

/-- A notebook with the name of its file. -/
structure Book where
  name : String
  cells : List Cell

/-- The code in a value: a text, or a list of texts. -/
def sourceOf : Value → String
  | .str s => s
  | v => String.join ((v.list?.getD []).filterMap Value.str?)

/-- Reads a cell. A code cell was run if it has a number or outputs. -/
def Cell.ofValue (v : Value) : Cell :=
  match v.get? "cell_type" with
  | some (.str "code") =>
    let number := (v.get? "execution_count").getD .null
    let outputs := ((v.get? "outputs").bind Value.list?).getD []
    .code (sourceOf ((v.get? "source").getD .null)) (!number.isNull || !outputs.isEmpty)
  | _ => .other

/-- A notebook with the given cells. -/
def Book.ofCells (name : String) (cells : List Value) : Book := ⟨name, cells.map Cell.ofValue⟩

/-- Why notebooks are not in order. -/
inductive NotebookFault where
  | noneIn (folder : String)
  | wasRun (path : String) (cell : Nat)
  | malformed (path : String) (cell : Nat)
  deriving DecidableEq, Repr

instance : Described NotebookFault where
  label _ := "CookbookValidationError"
  wording?
    | .noneIn folder => some ("no notebooks found in " ++ folder)
    | .wasRun path cell =>
      some (path ++ ": code cell " ++ toString cell ++ " contains committed execution state")
    | .malformed path cell =>
      some (path ++ ": code cell " ++ toString cell ++ " does not compile: ")

/-- Checks a cell. -/
def checkCell (path : String) (number : Nat) : Cell → Except NotebookFault Unit
  | .other => .ok ()
  | .code source wasRun =>
    if wasRun then .error (.wasRun path number)
    else if Code.isWellFormed source then .ok ()
    else .error (.malformed path number)

/-- Checks cells, which are counted from the given number on. -/
def checkCells (path : String) (number : Nat) : List Cell → Except NotebookFault Unit
  | [] => .ok ()
  | c :: cs => do
    checkCell path number c
    checkCells path (number + 1) cs

/-- Whether a file is a notebook by its name. -/
def isBookName (name : String) : Bool := ".ipynb".toList.isSuffixOf name.toList

/-- The notebooks of a folder, in the order of their names. -/
def books (all : List Book) : List Book :=
  (all.filter (isBookName ·.name)).mergeSort (fun a b ↦ a.name ≤ b.name)

/-- Checks the notebooks of a folder and counts them. -/
def check (folder : Files.Path) (all : List Book) : Except NotebookFault Nat := do
  let found := books all
  if found.isEmpty then throw (.noneIn folder.text)
  for b in found do
    checkCells (folder.child b.name).text 1 b.cells
  return found.length

/-- The notebooks that come with the library. -/
def shipped : List Book := [
  ⟨"calculator.ipynb", []⟩, ⟨"gamestats.ipynb", []⟩, ⟨"memory.ipynb", []⟩]

end CallTree.Notebook
