import Stencil.Data.Value
import Stencil.Template.Error

/-!
# Events

What reading and rendering report. An event is what happened; its level, the part of the library that
it comes from, its message and its attributes are functions of that.
-/

namespace Stencil

/-- Something that reading or rendering reports. -/
inductive Event
  /-- Source was read: its length and the number of parts outside all blocks. -/
  | parsed (length parts : Nat)
  /-- A partial is rendered in place, the `depth`-th around each other. -/
  | expanding (name : String) (depth : Nat)
  /-- A partial is not rendered since as many partials as allowed are around it. -/
  | limitReached (name : String) (depth : Nat)
  /-- A partial is not rendered since its blocks do not nest. -/
  | malformed (name : String) (cause : Misnesting)
  /-- A partial outside all others was given up since the stack ran out inside it. -/
  | stackExceeded (name : String)
  /-- The globals were not applied to a context of the given type. -/
  | globalsSkipped (type : String)
  deriving DecidableEq, Repr, Inhabited

/-- The two levels of events. -/
inductive EventLevel
  | debug
  | warning
  deriving DecidableEq, Repr, Inhabited

/-- The number of a level on the scale of log levels. -/
def EventLevel.number : EventLevel → Int
  | .debug => 10
  | .warning => 30

namespace Event

/-- The level of an event. -/
def level : Event → EventLevel
  | parsed .. => .debug
  | expanding .. => .debug
  | limitReached .. => .warning
  | malformed .. => .warning
  | stackExceeded _ => .warning
  | globalsSkipped _ => .debug

/-- The part of the library that an event comes from. -/
def scope : Event → String
  | parsed .. => "parser"
  | expanding .. => "renderer"
  | limitReached .. => "renderer"
  | malformed .. => "renderer"
  | stackExceeded _ => "renderer"
  | globalsSkipped _ => "environment"

/-- The message of an event. -/
def message : Event → String
  | parsed .. => "Parsed template"
  | expanding .. => "Expanding partial"
  | limitReached .. => "Partial nesting limit reached, rendering nothing"
  | malformed _ cause => "Partial failed to parse, rendering nothing: " ++ cause.message
  | stackExceeded _ => "Partial nesting exceeded the interpreter stack, rendering nothing"
  | globalsSkipped _ => "Context is not a mapping, globals not applied"

/-- The attributes of an event, in the order in which a log line shows them. -/
def attributes : Event → List (String × Value)
  | parsed length parts => [("length", .int length), ("tokens", .int parts)]
  | expanding name depth => [("partial", .text name), ("depth", .int depth)]
  | limitReached name depth => [("partial", .text name), ("depth", .int depth)]
  | malformed name _ => [("partial", .text name), ("code", .text Misnesting.code)]
  | stackExceeded name => [("partial", .text name), ("depth", .int 0)]
  | globalsSkipped type => [("context_type", .text type)]

end Event

end Stencil
