import CallTree.Described
import CallTree.Files.Path
import CallTree.Text.Newline
import CallTree.Value.Display

/-!
# Folders of files

A folder holds texts under paths. The start of a relative path and the root are folders always. A
path may lead through `..`, which goes back from a folder that is there.
-/

namespace CallTree.Files

/-- Why a file cannot be read or written. -/
inductive FaultKind where
  | missing
  | isFolder
  | notFolder
  | taken
  deriving DecidableEq, Repr

/-- A file that cannot be read or written. -/
structure FileFault where
  kind : FaultKind
  path : Path
  deriving DecidableEq, Repr

instance : Described FileFault where
  label f := match f.kind with
    | .missing => "FileNotFoundError"
    | .isFolder => "IsADirectoryError"
    | .notFolder => "NotADirectoryError"
    | .taken => "FileExistsError"
  wording? _ := none

/-- The number and the words of a kind of fault. -/
def FaultKind.text : FaultKind → String
  | .missing => "[Errno 2] No such file or directory"
  | .isFolder => "[Errno 21] Is a directory"
  | .notFolder => "[Errno 20] Not a directory"
  | .taken => "[Errno 17] File exists"

/-- What is said about a file that cannot be read or written. -/
def FileFault.text (f : FileFault) : String := f.kind.text ++ ": " ++ Value.quoted f.path.text

/-- Texts under paths, and the folders that are there. -/
structure Folder where
  files : List (Path × String) := []
  folders : List Path := []

namespace Folder

/-- Whether a path without `..` is a folder. -/
def isFolder (f : Folder) (p : Path) : Bool := p.names.isEmpty || f.folders.contains p

/-- A path without `..` that leads to the same place. All but the last name have to be folders. -/
def locateFrom (f : Folder) (place : Path) : List String → Except FaultKind Path
  | [] => .ok place
  | name :: names =>
    if f.isFolder place then
      f.locateFrom (if name == ".." then place.parent else place.child name) names
    else if (f.files.lookup place).isSome then .error .notFolder
    else .error .missing

/-- The place of a path. -/
def locate (f : Folder) (p : Path) : Except FileFault Path :=
  (f.locateFrom ⟨p.rooted, []⟩ p.names).mapError (⟨·, p⟩)

/-- Reads a file. -/
def read (f : Folder) (p : Path) : Except FileFault String := do
  let place ← f.locate p
  if f.isFolder place then throw ⟨.isFolder, p⟩
  match f.files.lookup place with
  | some s => return Text.withLineFeeds s
  | none => throw ⟨.missing, p⟩

/-- Whether there is a file or a folder. -/
def has (f : Folder) (p : Path) : Bool :=
  match f.locate p with
  | .ok place => f.isFolder place || (f.files.lookup place).isSome
  | .error _ => false

/-- Writes a file into a folder that is there. -/
def write (f : Folder) (p : Path) (s : String) : Except FileFault Folder := do
  let place ← f.locate p
  if f.isFolder place then throw ⟨.isFolder, p⟩
  return { f with files := f.files.filter (·.1 != place) ++ [(place, s)] }

/-- Makes a folder where there is none. -/
def makeStep (f : Folder) (p : Path) : Except FileFault Folder := do
  let place ← f.locate p
  if f.isFolder place then return f
  if (f.files.lookup place).isSome then throw ⟨.taken, p⟩
  return { f with folders := f.folders ++ [place] }

/-- Makes a folder and those on the way to it. -/
def makeFolder (f : Folder) (p : Path) : Except FileFault Folder :=
  p.steps.foldlM makeStep f

/-- Writes a file, and makes the folders on the way to it. -/
def put (f : Folder) (p : Path) (s : String) : Except FileFault Folder := do
  (← f.makeFolder p.parent).write p s

/-- A folder with the given files and the folders they need. -/
def ofFiles (files : List (Path × String)) : Folder where
  files := files
  folders := (files.flatMap fun (p, _) ↦ p.parent.steps).eraseDups

end Folder

end CallTree.Files
