import Stencil.Data.Binding
import Stencil.Log.Layout
import Stencil.Text.Case
import Stencil.Environment

/-!
# The logger

All events and records of the library go through one logger. It has handlers, which write lines to the
error stream in their layouts, and a level below which records are dropped. Without any handler, records
from the level of warnings on are written as their bare messages.

`Logger.setUp` replaces the handlers by one. Its arguments may be values of any type: levels and layouts
are chosen by name, without regard to case, and where an argument is missing the environment variables
and the kind of the error stream decide. The old handlers are removed before the layout is looked at and
the level is set last, so that a call that fails leaves the logger without handlers, or with the old
level.
-/

namespace Stencil

/-- How a handler lays out records. -/
inductive Layout
  /-- The message alone. -/
  | bare
  | json
  | human (colours : Bool)
  deriving DecidableEq, Repr, Inhabited

/-- The level of a logger: a number, or a truth value, which counts as zero or one. -/
inductive LoggerLevel
  | number (n : Int)
  | truth (b : Bool)
  deriving DecidableEq, Repr, Inhabited

/-- The number that a level stands for. -/
def LoggerLevel.toInt : LoggerLevel → Int
  | number n => n
  | truth b => b.toNat

/-- The levels that go by a name. -/
def levelNames : List (String × Int) :=
  [("trace", 10), ("debug", 10), ("info", 20), ("warn", 30), ("warning", 30), ("error", 40), ("err", 40),
    ("fatal", 50), ("critical", 50), ("off", 60), ("none", 60)]

/-- The level of a name in any case; an unknown name stands for information. -/
def levelOfName (name : String) : Int := (levelNames.lookup (Text.lower name)).getD 20

/-- What surrounds the logger: the environment variables that choose level and layout, if they are set,
and whether the error stream is a terminal. -/
structure Surroundings where
  levelVariable : Option String
  layoutVariable : Option String
  terminal : Bool
  deriving DecidableEq, Repr, Inhabited

namespace Surroundings

/-- The level by the environment. -/
def level (s : Surroundings) : Int := levelOfName (s.levelVariable.getD "info")

/-- The name of the layout by the environment, or by the error stream. -/
def layoutName (s : Surroundings) : String :=
  match s.layoutVariable with
  | some name => if name = "" then fallback else Text.lower name
  | none => fallback
where
  /-- The name of the layout by the error stream. -/
  fallback : String := if s.terminal then "human" else "json"

/-- The layout that goes by a name in lower case: lines for people, unless the name is that of the other
one. -/
def layoutOfName (s : Surroundings) (name : String) : Layout :=
  if name = "json" then .json else .human s.terminal

end Surroundings

/-- Ask an object for its lower case: call its attribute of that name. -/
def Graph.ownLower (g : Graph) (v : Value) : Run Value :=
  match g.attribute? v "lower" with
  | none => Run.fail (g.lacking v "lower")
  | some a => g.callBare a

/-- The state of logging. -/
structure Logger where
  handlers : List Layout
  level : LoggerLevel
  surroundings : Surroundings
  deriving DecidableEq, Repr, Inhabited

namespace Logger

/-- The logger before it is set up, with all levels from debugging on. -/
def initial (terminal : Bool) : Logger := ⟨[], .number 10, ⟨none, none, terminal⟩⟩

/-- The name of the layout that an argument chooses; values that count as false leave the choice to the
surroundings. Bytes have a lower case, but are no name that is known, and an object may have one of its own. -/
def chosenName (g : Graph) (s : Surroundings) (layout : Value) : Run String := do
  if ← Run.ofExcept (g.truth (← Run.memory) layout) then
    match layout, g.node? layout with
    | .text name, _ => return Text.lower name
    | .bytes _, _ => return ""
    | _, some (.buffer _) => return ""
    | _, _ =>
      match ← g.ownLower layout with
      | .text name => return name
      | _ => return ""
  else return s.layoutName

/-- Set the level, or say why that cannot be done. -/
def setLevel (g : Graph) (l : Logger) : (level : Value) → Run (Option Fault × Logger)
  | .text name => return (none, { l with level := .number (levelOfName name) })
  | .int n => return (none, { l with level := .number n })
  | .bool b => return (none, { l with level := .truth b })
  | v => do
    match g.quote (← Run.memory) v with
    | .ok text => return (some (.badLevel text), l)
    | .error f => return (some f, l)

/-- Replace all handlers by one, and set the level. What has been done before a failure remains. -/
def setUp (g : Graph) (l : Logger) (level layout : Value) : Run (Option Fault × Logger) :=
  tryCatch
    (do
      let name ← chosenName g l.surroundings layout
      setLevel g { l with handlers := [l.surroundings.layoutOfName name] } level)
    fun f => return (some f, { l with handlers := [] })

/-- Set the logger up by its surroundings, unless it has handlers already. -/
def setUpDefault (l : Logger) : Logger :=
  if l.handlers.isEmpty then
    { l with
      handlers := [l.surroundings.layoutOfName (Text.lower l.surroundings.layoutName)]
      level := .number l.surroundings.level }
  else l

/-- The level from which on records are written. A level of zero leaves it to the root of all loggers,
which writes warnings. -/
def effectiveLevel (l : Logger) : Int := if l.level.toInt = 0 then 30 else l.level.toInt

/-- Whether records of a level are written. -/
def isEnabledFor (l : Logger) (level : Int) : Bool := 0 < level && l.effectiveLevel ≤ level

/-- The line of a record in a layout. -/
def lineIn (g : Graph) (r : Record) : Layout → Run String
  | .bare => do
    let said ← r.said g
    Run.ofExcept (g.display (← Run.memory) said)
  | .json => JsonLayout.line g (serviceVersion true) r
  | .human colours => HumanLayout.line g colours r

/-- What the handlers write for a record. A handler that cannot lay out the record writes nothing. -/
def write (g : Graph) (l : Logger) (r : Record) : Run String := do
  let layouts := if l.handlers.isEmpty then (if 30 ≤ r.level then [.bare] else []) else l.handlers
  let lines ← layouts.mapM fun layout =>
    tryCatch (do return (← lineIn g r layout) ++ "\n") fun _ => return ""
  return String.join lines

/-- The extra attributes of a logging call: the scope, and those of the call. -/
def extraAttributes (scope : String) (extra : List (String × Value)) : List (String × Value) :=
  Record.setAll [("scope", .text scope)] extra

/-- Where and when records are made. -/
structure Origin where
  path : String
  line : Int
  created : Number.Binary64
  deriving DecidableEq, Repr, Inhabited

/-- Log a message: what is written for it. Extra attributes must not have the names of fields. -/
def log (g : Graph) (l : Logger) (o : Origin) (scope : String) (level : Int) (message : Value)
    (arguments : List Value) (extra : List (String × Value)) : Run String := do
  if l.isEnabledFor level then
    let arguments ← Run.ofExcept (Record.argumentsOf g (← Run.memory) arguments)
    let attributes := extraAttributes scope extra
    match attributes.find? fun a => Record.reservedNames.contains a.1 with
    | some a => Run.fail (.fieldOverwritten a.1)
    | none =>
      l.write g
        { logger := serviceName
          level := level
          path := o.path
          line := .int o.line
          message := message
          arguments := arguments
          created := o.created
          attributes := attributes }
  else return ""

/-- What is written for an event. -/
def logEvent (g : Graph) (l : Logger) (o : Origin) (e : Event) : Run String :=
  l.log g o e.scope e.level.number (.text e.message) [] e.attributes

end Logger

end Stencil
