import Conformance.Json.Form

/-! Events: what the engine reports about its work while it runs. The operations themselves are
plain functions; the events that belong to an operation on given arguments are functions of the
same arguments. An event carries the spans that were open around it. -/

namespace Conformance

inductive Level
  | error
  | warn
  | info
  | debug
  | trace
deriving DecidableEq, Repr

instance : Named Level where
  name
    | .error => "ERROR"
    | .warn => "WARN"
    | .info => "INFO"
    | .debug => "DEBUG"
    | .trace => "TRACE"
  all := [.error, .warn, .info, .debug, .trace]

/-- The named values that an event or a span carries. -/
abbrev Fields := List (String × Json)

/-- A stretch of work that events fall into. -/
structure Span where
  name : String
  fields : Fields

structure Event where
  level : Level
  message : String
  fields : Fields := []
  /-- The open spans, outermost first. -/
  spans : List Span := []

/-- The events inside a span. -/
def Span.around (span : Span) (events : List Event) : List Event :=
  events.map fun e => { e with spans := span :: e.spans }

def Span.toJson (s : Span) : Json :=
  .object [("name", .text s.name), ("fields", .object s.fields)]

def Event.toJson (e : Event) : Json :=
  .object [("level", Conformance.toJson e.level), ("message", .text e.message),
    ("fields", .object e.fields), ("spans", .array (e.spans.map Span.toJson))]

end Conformance
