/-!
# Paths of files

A path is a list of names, and it starts at the root or not. Empty names and single points in a
path as it was written do not count.
-/

namespace CallTree.Files

/-- A path. -/
structure Path where
  rooted : Bool
  names : List String
  deriving DecidableEq, Repr

/-- The names between slashes; `name` is the current one, last character first. -/
def namesFrom (name : List Char) : List Char → List String
  | [] => [String.ofList name.reverse]
  | c :: cs =>
    if c == '/' then String.ofList name.reverse :: namesFrom [] cs else namesFrom (c :: name) cs

namespace Path

/-- The path in a text. -/
def ofText (s : String) : Path where
  rooted := s.toList.head? == some '/'
  names := (namesFrom [] s.toList).filter fun n ↦ n != "" && n != "."

/-- The text of a path. -/
def text (p : Path) : String :=
  match p.rooted, p.names with
  | false, [] => "."
  | false, names => "/".intercalate names
  | true, names => "/" ++ "/".intercalate names

/-- The path to something inside. -/
def child (p : Path) (name : String) : Path := { p with names := p.names ++ [name] }

/-- The path without its last name. -/
def parent (p : Path) : Path := { p with names := p.names.dropLast }

/-- All paths on the way to a path, and the path itself. -/
def steps (p : Path) : List Path :=
  (List.range (p.names.length + 1)).map fun n ↦ { p with names := p.names.take n }

end Path

end CallTree.Files
