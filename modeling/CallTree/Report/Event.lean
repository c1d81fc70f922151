import CallTree.Fault
import CallTree.Json.Write
import CallTree.Report.Redact

/-!
# Events

An event has a name and attributes. It is redacted once and then goes two ways: as one line of JSON
with sorted keys into the log, and as it is to a trace.
-/

namespace CallTree.Report

/-- An event. -/
structure Event where
  name : String
  attributes : List (String × Value)

/-- What is recorded of an event: its attributes after redaction. -/
structure Record where
  name : String
  attributes : List (Value × Value)

/-- The attributes of a mapping. -/
def entriesOf : Value → List (Value × Value)
  | .map es => es
  | _ => []

/-- Redacts an event. -/
def Event.record (allowContent : Bool) (e : Event) : Record :=
  ⟨e.name, entriesOf (redact allowContent (.record e.attributes))⟩

/-- The log line of a recorded event. -/
def Record.line (r : Record) : Except Json.WriteFault String :=
  Json.write .log (.map (r.attributes.foldl (fun es kv ↦ Value.put kv.1 kv.2 es)
    [(.str "event", .str r.name)]))

/-- Attribute names that an event keeps for itself. -/
def reservedNames : List String := ["self", "event"]

/-- Sends an event out: the log line and the record for the trace. -/
def emit (allowContent : Bool) (e : Event) : Except Fault (String × Record) :=
  if e.attributes.any (fun a ↦ reservedNames.contains a.1) then .error .wrongKind
  else if hasLongKey allowContent (.record e.attributes) then .error .badValue
  else
    let r := e.record allowContent
    match r.line with
    | .ok line => .ok (line, r)
    | .error f => .error (.ofWriting f)

/-- Sends events out one after another. The first one that cannot be sent ends it. -/
def emitAll (allowContent : Bool) (es : List Event) : Except Fault (List (String × Record)) :=
  es.mapM (emit allowContent)

end CallTree.Report
