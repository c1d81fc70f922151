import CallTree.Command.Run
import CallTree.Model.Prepared

/-!
# The command line

The first argument names a program and the others are its own. The files that its arguments name are
read before it runs, and those that it changed are written after it. Events go to standard error,
one line each.

There is no client of a model service here, so every request fails; and no version control that
could be asked, so no checkout counts as part of the main line.
-/

namespace CallTree.Command

open CallTree.Files

/-- What an argument may name: the whole of it, or what stands behind an equals sign. -/
def namedBy (arg : String) : List String :=
  arg :: ((splitEquals arg.toList).2.map String.ofList).toList

/-- The paths that a program may want to read, given its arguments. -/
def wanted (args : List String) : List Path :=
  (args.flatMap namedBy).flatMap fun s ↦
    let p := Path.ofText s
    [p, p.child "pyproject.toml", p.child "CHANGELOG.md"]

/-- Reads a file if it is there. -/
def fileThere (p : Path) : IO (List (Path × String)) := do
  try
    return [(p, ← IO.FS.readFile p.text)]
  catch _ => return []

/-- A folder, if it is there: something that exists and is no file. -/
def folderThere (p : Path) : IO (List Path) := do
  try
    discard (IO.FS.realPath p.text)
    return if (← fileThere p).isEmpty then [p] else []
  catch _ => return []

/-- The files and folders that are there on the given paths. -/
def folderOf (paths : List Path) : IO Folder := do
  let files ← paths.mapM fileThere
  let folders ← (paths.flatMap Path.steps).eraseDups.mapM folderThere
  return { files := files.flatten, folders := folders.flatten }

/-- Writes the files that were changed. -/
def writeChanged (before after : Folder) : IO Unit := do
  for (p, s) in after.files do
    if before.files.lookup p != some s then
      IO.FS.createDirAll p.parent.text
      IO.FS.writeFile p.text s

/-- Variables that programs read. -/
def settingNames : List String := ["OPENAI_API_KEY", "OPENAI_MODEL", "OPENAI_TIMEOUT"]

/-- The environment of the process. -/
def environment : IO Config.Environment := do
  return (← settingNames.mapM fun name ↦ do
    return (← IO.getEnv name).map (name, ·)).filterMap id

/-- The setting in which the command line runs programs. -/
def processSetting (env : Config.Environment) :
    Setting (Rehearsal PreparedReply) (List Float) where
  environment := env
  client := preparedClient
  clock := Clock.prepared 0.0
  account := .reasons
  package := Reference.released
  isOnMainLine := false
  notebooks := (Path.ofText "cookbook", Notebook.shipped)

/-- Says how a program ended if it did not end by itself. -/
def report (name : String) : Except Stop Nat → IO Unit
  | .ok _ => return
  | .error (.refused text) => IO.eprintln (name ++ ": error: " ++ text)
  | .error (.failed label wording) => IO.eprintln (label ++ ": " ++ wording.getD "")

/-- Runs a program. -/
def runProgram (name : String) (args : List String) : IO UInt32 := do
  let some run := program? (processSetting (← environment)) name
    | IO.eprintln ("no such program: " ++ name)
      return 2
  let folder ← folderOf (wanted args)
  let o := run args ⟨folder, ⟨[], [], []⟩, [], [], []⟩
  for e in o.trace do
    if let .ok line := (e.record false).line then IO.eprintln line
  writeChanged folder o.state.folder
  IO.print o.state.output
  report name o.result
  return UInt32.ofNat (exitStatus o.result)

end CallTree.Command

/-- Runs the program that the first argument names. -/
def main (args : List String) : IO UInt32 :=
  match args with
  | name :: rest => CallTree.Command.runProgram name rest
  | [] => do
    IO.eprintln "usage: calltree PROGRAM [ARGUMENT ...]"
    return 2
