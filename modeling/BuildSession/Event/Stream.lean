import BuildSession.Event.Basic
import BuildSession.Json.Printer
import BuildSession.Log

/-!
# Event streams

A stream of events has one line per event: the written event with its members in key order. An
event that cannot be written leaves no line in the stream and is only logged.
-/

namespace BuildSession

namespace EventStream

def value (e : TextualEvent) : Json :=
  .object (Json.sortMembers e.jsonMembers)

/-- The line of an event, with its line break. -/
def line (e : TextualEvent) : String :=
  (value e).render ++ "\n"

/-- What is logged of an event that cannot be written. -/
def unwritable : LogRecord where
  level := .debug
  message := "could not serialize repository event"
  fields := [("error", "path contains invalid UTF-8 characters")]

end EventStream

end BuildSession
