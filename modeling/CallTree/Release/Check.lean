import CallTree.Files.Folder
import CallTree.Release.Tag
import CallTree.Text.Search
import CallTree.Toml.Read

/-!
# Checking releases

A release is in order when its tag is one of a stable release, the settings of the project give the
same version, and the changelog has a section for it. A release may also have to be part of the
main line of development.
-/

namespace CallTree.Release

open CallTree.Files

/-- Why a release is not in order. -/
inductive ReleaseFault where
  | badTag
  | unreadable (fault : FileFault)
  | malformed (fault : Toml.ReadFault)
  /-- The settings lack an entry. -/
  | noEntry (name : String)
  /-- What should hold the version is no table. -/
  | notTable
  | otherVersion (version found : String)
  | noSection (version : String)
  | notOnMainLine

/-- What is said about a release that is not in order. -/
def ReleaseFault.text : ReleaseFault → String
  | .badTag => "release tag must use stable semantic version form vX.Y.Z"
  | .unreadable f => f.text
  | .malformed f => f.text
  | .noEntry name => Value.quoted name
  | .notTable => ""
  | .otherVersion version found =>
    "tag version " ++ version ++ " does not match project version " ++ found
  | .noSection version => "CHANGELOG.md has no release section for " ++ version
  | .notOnMainLine => "release tag commit is not contained in origin/main"

instance : Described ReleaseFault where
  label
    | .unreadable f => Described.label f
    | .malformed f => Described.label f
    | .noEntry _ => "KeyError"
    | .notTable => "TypeError"
    | _ => "ValueError"
  wording?
    | .unreadable _ => none
    | .malformed _ => none
    | .noEntry _ => none
    | .notTable => none
    | f => some f.text

/-- An entry of a table. -/
def entry (name : String) (t : Toml.Table) : Except ReleaseFault Toml.Item :=
  match t.lookup name with
  | some item => .ok item
  | none => .error (.noEntry name)

/-- The version in the settings of a project. -/
def projectVersion (settings : String) : Except ReleaseFault Toml.Item := do
  let t ← (Toml.read settings).mapError .malformed
  match ← entry "project" t with
  | .table project => entry "version" project
  | _ => throw .notTable

/-- Whether an item is a text. -/
def isText (s : String) : Toml.Item → Bool
  | .text t => t == s
  | _ => false

/-- The heading of the section for a version. -/
def sectionMark (version : String) : String := "## [" ++ version ++ "]"

/-- The version of a release that is in order, given its tag and its files. -/
def validate (digits : Text.DigitClass) (tag : String)
    (settings changelog : Except FileFault String) : Except ReleaseFault String := do
  let some version := version? digits tag | throw .badTag
  let found ← projectVersion (← settings.mapError .unreadable)
  if !isText version found then
    throw (.otherVersion version found.plainText)
  let log ← changelog.mapError .unreadable
  if !Text.occursIn (sectionMark version) log then
    throw (.noSection version)
  return version

/-- The version of a release whose files are in a folder. -/
def validateIn (digits : Text.DigitClass) (f : Folder) (root : Path) (tag : String) :
    Except ReleaseFault String :=
  validate digits tag (f.read (root.child "pyproject.toml")) (f.read (root.child "CHANGELOG.md"))

end CallTree.Release
