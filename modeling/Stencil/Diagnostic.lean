import Stencil.Json.Basic

/-!
# Diagnostics

What a round tells its host besides its outputs: messages, each of some
severity, in the order in which they are reported.
-/

namespace Stencil

/-- How serious a message is. -/
inductive Severity where
  | error
  | warning
  | mandatoryWarning
  | note
  deriving DecidableEq, Repr

namespace Severity

def names : List (String × Severity) := [
  ("error", error), ("warning", warning), ("mandatory_warning", mandatoryWarning), ("note", note)]

def name : Severity → String
  | error => "error"
  | warning => "warning"
  | mandatoryWarning => "mandatory_warning"
  | note => "note"

def label : Severity → String
  | error => "error"
  | warning => "warning"
  | mandatoryWarning => "mandatory warning"
  | note => "note"

end Severity

/-- A message with its severity. -/
structure Diagnostic where
  severity : Severity
  message : String
  deriving DecidableEq, Repr

def Diagnostic.toValue (diagnostic : Diagnostic) : Json.Value :=
  .object [
    ("severity", .text diagnostic.severity.name),
    ("message", .text diagnostic.message)]

/-- The messages of one severity, in order. -/
def messagesOf (severity : Severity) (diagnostics : List Diagnostic) : List String :=
  (diagnostics.filter fun diagnostic => decide (diagnostic.severity = severity)).map
    Diagnostic.message

/-- Whether an error is among the messages. -/
def hasErrors (diagnostics : List Diagnostic) : Bool :=
  diagnostics.any fun diagnostic => decide (diagnostic.severity = .error)

end Stencil
