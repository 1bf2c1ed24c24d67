/-!
# Traces

Spans, the fields recorded on them later, and events. Every event belongs to the
innermost span around the code that emits it, and a span belongs to one call.
-/

namespace TrialRouting.Trace

/-- The value of a field. -/
inductive FieldValue where
  | text (value : String)
  | number (value : Nat)
  deriving DecidableEq, Repr

/-- A named field. -/
abbrev Field := String × FieldValue

/-- A field that holds a text. -/
def text (name value : String) : Field := (name, .text value)

/-- A field that holds a number. -/
def number (name : String) (value : Nat) : Field := (name, .number value)

/-- A span that has been opened. -/
structure Span where
  id : Nat
  name : String
  /-- The call it belongs to. -/
  invocation : Nat
  deriving DecidableEq, Repr

/-- How important an event is. -/
inductive Level where
  | debug
  | info
  | warn
  | error
  deriving DecidableEq, Repr

/-- The name of a level. -/
def Level.name : Level → String
  | debug => "DEBUG"
  | info => "INFO"
  | warn => "WARN"
  | error => "ERROR"

/-- Something that happened. -/
structure Event where
  level : Level
  message : String
  fields : List Field
  deriving DecidableEq, Repr

/-- One entry of a trace. -/
inductive Entry where
  /-- A span was opened with its first fields. -/
  | opened (span : Span) (fields : List Field)
  /-- Fields were recorded on an open span. -/
  | recorded (span : Span) (fields : List Field)
  /-- Something happened inside the given span, or outside all spans. -/
  | event (event : Event) (current : Option Span)
  deriving DecidableEq, Repr

end TrialRouting.Trace
