import CallTree.Described
import CallTree.Text.Blank
import CallTree.Value.Display

/-!
# Reference pages

A reference page describes the public names of a package, one section each: what kind of thing a
name stands for, where it is at home, how it is called, what it is about, its fields and its
methods, or its value.
-/

namespace CallTree.Reference

/-- What a public name stands for. -/
inductive Kind where
  | type
  | dictionary
  | function
  | constant
  deriving DecidableEq, Repr

/-- The word for a kind. -/
def Kind.word : Kind → String
  | .type => "Class"
  | .dictionary => "Typed dictionary"
  | .function => "Function"
  | .constant => "Constant"

/-- A method: its name, how it is called, and what it does in a line. -/
structure Method where
  name : String
  signature : String
  summary : String := ""

/-- A public name. -/
structure Item where
  name : String
  kind : Kind
  home : String
  /-- How it is called, if that can be told. -/
  signature : String := ""
  about : String := ""
  fields : List (String × String) := []
  methods : List Method := []
  /-- The value of a constant. -/
  value : Option Value := none

/-- A name that the package does not have. -/
inductive ReferenceFault where
  | unknown (name : String)
  deriving DecidableEq, Repr

instance : Described ReferenceFault where
  label _ := "AttributeError"
  wording? _ := none

/-- A list under a heading; nothing if it is empty. -/
def listed (heading : String) (lines : List String) : List String :=
  if lines.isEmpty then [] else ["", heading, ""] ++ lines

/-- The line on a method. -/
def Method.line (m : Method) : String :=
  "- `" ++ m.name ++ m.signature ++ "`" ++ (if m.summary == "" then "" else " — " ++ m.summary)

/-- The lines on fields and methods. -/
def Item.members (i : Item) : List String :=
  listed "Fields:" (i.fields.map fun (name, type) ↦ "- `" ++ name ++ ": " ++ type ++ "`") ++
    listed "Methods:" (i.methods.map Method.line)

/-- A line with an empty line behind it; nothing if it is empty. -/
def paragraph (line : String) : List String := if line == "" then [] else [line, ""]

/-- The lines of a section. -/
def Item.lines (i : Item) : List String :=
  ["## `" ++ i.name ++ "`", "", "**" ++ i.kind.word ++ "** · `" ++ i.home ++ "`", ""] ++
    (if i.signature == "" then [] else ["```python", i.name ++ i.signature, "```", ""]) ++
    paragraph i.about ++ i.members ++ (if i.members.isEmpty then [] else [""]) ++
    (match i.value with
      | some v => ["Current value: `" ++ v.display ++ "`", ""]
      | none => [])

/-- The lines at the top of a page. -/
def heading : List String := [
  "# API Reference", "",
  "This file is generated from `treelang.__all__`. Do not edit it by hand;",
  "run `make docs` after changing the supported public API.", ""]

/-- The text without blanks at its end. -/
def trimEnd (s : String) : String :=
  String.ofList (s.toList.reverse.dropWhile Text.isBlank).reverse

/-- The item of a name. -/
def find (items : List Item) (name : String) : Except ReferenceFault Item :=
  match items.find? (·.name == name) with
  | some i => .ok i
  | none => .error (.unknown name)

/-- The page on the given names. -/
def page (items : List Item) (names : List String) : Except ReferenceFault String := do
  let found ← names.mapM (find items)
  return trimEnd ("\n".intercalate (heading ++ found.flatMap Item.lines)) ++ "\n"

/-- The lines on the members of a name. A constant has none that could be told. -/
def membersOf (items : List Item) (name : String) : Except ReferenceFault (Kind × List String) := do
  let i ← find items name
  if i.kind = .constant then throw (.unknown name)
  return (i.kind, i.members)

end CallTree.Reference
