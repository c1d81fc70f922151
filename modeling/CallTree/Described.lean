/-!
# Causes that reports can name

Each kind of failure in this library is a type of causes. Reports and log lines show a cause by a
label and by its wording; a cause may have no words of its own.
-/

namespace CallTree

/-- Causes that reports can name. -/
class Described (ε : Type) where
  /-- The label of the cause in reports. -/
  label : ε → String
  /-- The wording of the cause, if it has one of its own. -/
  wording? : ε → Option String

/-- The wording of a cause, empty if it has none. -/
def wording {ε : Type} [Described ε] (e : ε) : String := (Described.wording? e).getD ""

/-- A cause in one line: its label and its wording. -/
def summary {ε : Type} [Described ε] (e : ε) : String := Described.label e ++ ": " ++ wording e

end CallTree
