import CallTree.Files.Path
import CallTree.Reference.Public
import CallTree.Text.Search

/-!
# Smoke tests of releases

An installed package is in order when it has the expected version, all names that it declares
public, and the current tree format. It may also be asked that it was not loaded from its sources.
-/

namespace CallTree.Release

open CallTree.Reference

/-- Why an installed package is not in order. -/
inductive SmokeFault where
  | otherVersion (found expected : String)
  | missingNames (names : List String)
  | otherSchema
  | notInstalled (location : String)
  deriving DecidableEq, Repr

instance : Described SmokeFault where
  label _ := "RuntimeError"
  wording?
    | .otherVersion found expected => some ("installed version " ++ found ++ " != " ++ expected)
    | .missingNames names => some ("missing public exports: " ++ ", ".intercalate names)
    | .otherSchema => some "installed artifact has an unexpected schema version"
    | .notInstalled location => some ("loaded package from source tree: " ++ location)

/-- The version of trees that releases are made for. -/
def expectedSchema : String := "1.0"

/-- Tests an installed package. -/
def smoke (p : Package) (expected : String) (installed : Bool) : Except SmokeFault Unit := do
  if p.version != expected then
    throw (.otherVersion p.version expected)
  let missing := p.exports.filter (!p.has ·)
  if !missing.isEmpty then
    throw (.missingNames missing)
  if p.schemaVersion != expectedSchema then
    throw .otherSchema
  if installed && !Text.occursIn "site-packages" (Files.Path.ofText p.location).text then
    throw (.notInstalled p.location)

end CallTree.Release
