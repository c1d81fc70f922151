import CallTree.Json.Indent
import CallTree.Tree.Form

/-!
# The schema of programs

A JSON schema for the written form of programs, as a model is shown it.
-/

namespace CallTree.Schema

open Value

/-- A reference to the schema of a kind of node. -/
def reference (kind : String) : Value := .record [("$ref", .str ("#/$defs/" ++ kind))]

/-- Any node. -/
def anyNode : Value := reference "node"

/-- A list of things. -/
def listOf (items : Value) : Value := .record [("type", .str "array"), ("items", items)]

/-- A text. -/
def text : Value := .record [("type", .str "string")]

/-- A text, or null, which is also the default. -/
def textOrNull : Value :=
  .record [("anyOf", .list [text, .record [("type", .str "null")]]), ("default", .null)]

/-- The schema of a node of one kind: its fields, and those that cannot be left out. -/
def object (kind : String) (fields : List (String × Value)) (required : List String) : Value :=
  .record [("type", .str "object"), ("additionalProperties", .bool false),
    ("properties", .record (("type", .record [("const", .str kind)]) :: fields)),
    ("required", .texts required)]

/-- The schema of a list operation. -/
def listOperation (kind : String) : Value :=
  object kind [("function", reference "lambda"), ("iterable", anyNode)] ["function", "iterable"]

/-- The schemas of the kinds of nodes. -/
def definitions : List (String × Value) := [
  ("value", object "value" [("name", text), ("value", .record [])] ["name", "value"]),
  ("function", object "function" [("name", text), ("params", listOf anyNode)] ["name", "params"]),
  ("program", object "program" [("body", listOf anyNode),
    ("mode", .record [("enum", .texts ["single", "parallel"])]), ("name", textOrNull),
    ("description", textOrNull), ("schema_version", .record [("const", .str formVersion)])]
    ["body", "mode"]),
  ("conditional", object "conditional" [("condition", anyNode), ("true_branch", anyNode),
    ("false_branch", .record [("anyOf", .list [anyNode, .record [("type", .str "null")]])])]
    ["condition", "true_branch"]),
  ("lambda", object "lambda" [("params", listOf text), ("body", reference "function")]
    ["params", "body"]),
  ("map", listOperation "map"),
  ("filter", listOperation "filter"),
  ("reduce", listOperation "reduce")]

/-- The schema of programs. -/
def program : Value :=
  .record [("$ref", .str "#/$defs/program"),
    ("$defs", .record (("node", .record [("oneOf", .list (definitions.map (reference ·.1)))]) ::
      definitions))]

/-- The schema of programs as a model is shown it. -/
def programText : String :=
  match Json.writeIndented program with
  | .ok s => s
  | .error _ => ""

end CallTree.Schema
