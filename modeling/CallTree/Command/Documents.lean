import CallTree.Command.Program

/-!
# Documents from the command line

One program writes the reference page, or checks that the page in a file is current; another checks
the notebooks.
-/

namespace CallTree.Command

open CallTree.Files

variable {ς τ : Type}

/-! ## The reference page -/

/-- The option for the file of the page. -/
def pageOpt : Opt := ⟨["--output"], .text, false⟩

/-- The option that asks for a check only. -/
def checkOpt : Opt := ⟨["--check"], .nothing, false⟩

/-- The command for the reference page. -/
def referenceForm : Form where
  name := "generate_api_docs"
  about := "Generate deterministic Markdown documentation for Treelang's public API."
  opts := [pageOpt, checkOpt]

/-- The file of the page if none is named. -/
def defaultPage : Path := Path.ofText "docs/api.md"

/-- Checks that the page in a file is current. -/
def checkPage (p : Path) (page : String) : Step ς τ Nat := do
  let current ← if ← Step.look (·.has p) then
    pure ((← Step.readFile p) == page) else pure false
  if current then
    Step.print ("API documentation is current: " ++ p.text)
    return 0
  else Effect.fail (.refused (p.text ++ " is stale; run `make docs` and commit the result"))

/-- The program for the reference page. -/
def documentApi (setting : Setting ς τ) (args : List String) : Step ς τ Nat :=
  Step.withArguments referenceForm args fun a ↦ do
    let p := (a.path? pageOpt).getD defaultPage
    let package := setting.package
    let page ← Step.orStop (Reference.page (Reference.publicItems package) package.exports)
    if a.has checkOpt then checkPage p page
    else
      Step.writeFile p page
      Step.print ("Generated API documentation: " ++ p.text)
      return 0

/-! ## Notebooks -/

/-- The program that checks the notebooks. It takes no arguments. -/
def checkNotebooks (setting : Setting ς τ) (_args : List String) : Step ς τ Nat := do
  let (folder, books) := setting.notebooks
  let count ← Step.orStop (Notebook.check folder books)
  Step.print s!"Validated {count} clean cookbook notebooks"
  return 0

end CallTree.Command
