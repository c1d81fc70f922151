import CallTree.Described
import CallTree.Json.Read
import CallTree.Json.Write

/-!
# Failures

What can go wrong outside the evaluation of a program: in a tool, in a service, or in a text that
should have been JSON.
-/

namespace CallTree

/-- What is wrong with the metadata of one property of a tool. -/
inductive PropertyFault where
  | notMapping
  | type
  | description
  | enum
  deriving DecidableEq, Repr

/-- The wording of a fault in a property. -/
def PropertyFault.text : PropertyFault → String
  | .notMapping => "must be a mapping"
  | .type => "has an invalid type"
  | .description => "has an invalid description"
  | .enum => "has an invalid enum"

/-- What is wrong with the metadata of a tool. -/
inductive DefinitionFault where
  | notMapping
  | noName
  | otherName (given expected : String)
  | badDescription (tool : String)
  | noProperties (tool : String)
  | badPropertyName (tool : String)
  | badProperty (tool property : String) (what : PropertyFault)
  deriving DecidableEq, Repr

/-- The wording of a fault in a tool's metadata. -/
def DefinitionFault.text : DefinitionFault → String
  | .notMapping => "Tool definition must be a mapping"
  | .noName => "Tool definition has no valid name"
  | .otherName given expected =>
    "Provider returned tool '" ++ given ++ "' when '" ++ expected ++ "' was requested"
  | .badDescription tool => "Tool '" ++ tool ++ "' has no valid description definition"
  | .noProperties tool => "Tool '" ++ tool ++ "' has no valid properties definition"
  | .badPropertyName tool => "Tool '" ++ tool ++ "' contains an invalid property name"
  | .badProperty tool property what =>
    "Tool '" ++ tool ++ "' property '" ++ property ++ "' " ++ what.text

instance : Described DefinitionFault where
  label _ := "ProviderResponseError"
  wording? d := some d.text

/-- A failure of a tool, of a service or of a text. -/
inductive Fault where
  /-- A service failed and said so under a label of its own. -/
  | reported (label detail : String)
  /-- A service failed with a value it did not like and said why. -/
  | rejected (detail : String)
  /-- The work was called off. -/
  | cancelled
  /-- No answer came in time. -/
  | timedOut
  /-- The provider has no tool of this name. -/
  | toolMissing (name : String)
  /-- The tool ran and failed. -/
  | toolFailed (detail : String)
  /-- The provider has no registry after it was asked for its tools. -/
  | noRegistry
  /-- The metadata of a tool is not well formed. -/
  | definition (fault : DefinitionFault)
  /-- The model's answer holds no text. -/
  | noText
  /-- A tool refuses an argument and says why. -/
  | refused (detail : String)
  /-- A value is of a kind the operation does not take. -/
  | wrongKind
  /-- A value is of the right kind and still of no use. -/
  | badValue
  /-- A key is not there. -/
  | noSuchKey
  /-- A position is not there. -/
  | outOfRange
  /-- A search came to its end. -/
  | nothingFound
  /-- The value has no operation of this name. -/
  | noSuchOperation
  /-- The result is too large. -/
  | overflow
  /-- A number is divided by zero. -/
  | divisionByZero
  /-- There is not enough memory. -/
  | outOfMemory
  /-- Something is nested too deeply. -/
  | tooDeep
  /-- Nothing is implemented here. -/
  | notImplemented (detail : String)
  /-- A text is not JSON that can be read. -/
  | notJson (fault : Json.ReadFault) (text : String)
  deriving DecidableEq, Repr

/-- The failure of an attempt to write a value. -/
def Fault.ofWriting : Json.WriteFault → Fault
  | .longNumeral => .badValue
  | _ => .wrongKind

instance : Described Fault where
  label
    | .reported label _ => label
    | .rejected _ => "ValueError"
    | .cancelled => "CancelledError"
    | .timedOut => "TimeoutError"
    | .toolMissing _ => "ToolNotFoundError"
    | .toolFailed _ => "ToolExecutionError"
    | .noRegistry => "ProviderResponseError"
    | .definition d => Described.label d
    | .noText => "ProviderResponseError"
    | .refused _ => "ValueError"
    | .wrongKind => "TypeError"
    | .badValue => "ValueError"
    | .noSuchKey => "KeyError"
    | .outOfRange => "IndexError"
    | .nothingFound => "RuntimeError"
    | .noSuchOperation => "AttributeError"
    | .overflow => "OverflowError"
    | .divisionByZero => "ZeroDivisionError"
    | .outOfMemory => "MemoryError"
    | .tooDeep => "RecursionError"
    | .notImplemented _ => "NotImplementedError"
    | .notJson (.malformed _ _) _ => "JSONDecodeError"
    | .notJson (.longNumeral _) _ => "ValueError"
  wording?
    | .reported _ detail => some detail
    | .rejected detail => some detail
    | .toolMissing name => some ("Tool '" ++ name ++ "' not found.")
    | .toolFailed detail => some detail
    | .noRegistry => some "Provider did not populate its tool registry"
    | .definition d => Described.wording? d
    | .noText => some "Model response contained no text content"
    | .refused detail => some detail
    | .notImplemented detail => some detail
    | .notJson (.malformed what offset) text =>
      some (Json.ReadFault.message text (.malformed what offset))
    | _ => none

end CallTree
