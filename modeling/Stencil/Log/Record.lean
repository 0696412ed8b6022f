import Stencil.Data.Binding
import Stencil.Log.Pattern
import Stencil.Log.Clock
import Stencil.Text.Split

/-!
# Log records

A record holds a message pattern with its arguments, the logger and the level, the place in the program
and the time, and further attributes in the order in which they were first set. Some attribute names are
taken by the record's own fields; those, and names that begin with an underscore, are not shown among
the attributes of a log line.

A record is asked for its message by a function of its own. That function is no field, so an attribute can
have its name, and then stands in its place.
-/

namespace Stencil

/-- Call a value without arguments, whatever parameters it has. -/
def Graph.callBare (g : Graph) (v : Value) : Run Value :=
  match v, g.node? v with
  | .ref place, some (.callable _ behaviour) => Graph.call place behaviour
  | _, some (.structType type fields sample) => do
    let needed := (fields.filter fun f => f.2.isNone).map Prod.fst
    let _ ← Run.ofExcept ((Signature.mk type needed []).bind [] [])
    return sample
  | _, _ => Run.fail (.notCallable (g.qualifiedTypeName v))

/-- A log record. -/
structure Record where
  logger : String
  level : Int
  path : String
  line : Value
  message : Value
  arguments : Pattern.Arguments
  created : Number.Binary64
  attributes : List (String × Value)
  deriving DecidableEq, Repr

namespace Record

/-- The names of the fields that every record has. No extra attribute may have one of them. -/
def fieldNames : List String :=
  ["name", "msg", "args", "levelname", "levelno", "pathname", "filename", "module", "exc_info", "exc_text",
    "stack_info", "lineno", "funcName", "created", "msecs", "relativeCreated", "thread", "threadName",
    "processName", "process"]

/-- The names that cannot be given to extra attributes of a logging call. -/
def reservedNames : List String := ["message", "asctime"] ++ fieldNames

/-- The names that are not shown among the attributes of a log line. -/
def hiddenNames : List String := fieldNames ++ ["taskName", "scope", "message"]

/-- The arguments of a call with several: a single mapping that is not empty is meant by name. -/
def argumentsOf (g : Graph) (m : Memory) (vs : List Value) : Except Fault Pattern.Arguments :=
  match vs with
  | [v] =>
    match g.mapping? m v with
    | some _ => (g.truth m v).map fun b => if b then .mapping v true else .positional [v]
    | none => .ok (.positional [v])
  | _ => .ok (.positional vs)

/-- Whether there are no arguments at all, in which case the message is no pattern. -/
def hasArguments (r : Record) : Bool :=
  match r.arguments with
  | .positional [] => false
  | _ => true

/-- The message with its arguments. -/
def body (g : Graph) (r : Record) : Run String := do
  let s ← Run.ofExcept (g.display (← Run.memory) r.message)
  if r.hasArguments then Pattern.fill g s r.arguments else return s

/-- The name of the function that gives the message of a record. -/
def messageFunction : String := "getMessage"

/-- What a record says when it is asked for its message: the message with its arguments, unless an attribute
stands in the place of the function that gives it. -/
def said (g : Graph) (r : Record) : Run Value :=
  match r.attributes.lookup messageFunction with
  | none => do return .text (← r.body g)
  | some own => g.callBare own

/-- Set an attribute, which keeps its place if it was set before. -/
def setAttribute (attributes : List (String × Value)) (name : String) (v : Value) :
    List (String × Value) :=
  match attributes with
  | [] => [(name, v)]
  | (n, w) :: rest => if n = name then (n, v) :: rest else (n, w) :: setAttribute rest name v

/-- Set attributes one after the other. -/
def setAll (attributes more : List (String × Value)) : List (String × Value) :=
  more.foldl (fun as a => setAttribute as a.1 a.2) attributes

/-- Set an attribute or, where the name is that of a field and the value fits, the field. -/
def set (r : Record) (name : String) (v : Value) : Record :=
  match name, v with
  | "name", .text s => { r with logger := s }
  | "levelno", .int n => { r with level := n }
  | "pathname", .text s => { r with path := s }
  | "lineno", v => { r with line := v }
  | "msg", v => { r with message := v }
  | "created", .float x => { r with created := x }
  | "created", .int n => { r with created := .ofInt n }
  | _, _ => { r with attributes := setAttribute r.attributes name v }

/-- The attribute of a name; one that is not set is null. -/
def attributeOf (r : Record) (name : String) : Value := (r.attributes.lookup name).getD .null

/-- The attributes that a log line shows. -/
def shownAttributes (r : Record) : List (String × Value) :=
  r.attributes.filter fun a => !hiddenNames.contains a.1 && !a.1.toList.head?.any (· == '_')

/-- The part of a logger's name after its last dot. The logger without a name belongs to the library. -/
def inferScope (logger : String) : String :=
  if logger = "" then "whisker"
  else String.ofList ((Text.cutAt '.' logger.toList).getLastD [])

/-- The scope of a record: its own if it has one, else the one of its logger. -/
def scope (g : Graph) (m : Memory) (r : Record) : Except Fault Value := do
  let own := r.attributeOf "scope"
  if ← g.truth m own then return own else return .text (inferScope r.logger)

/-- The directory of the library. -/
def libraryDirectory : String := "whisker/"

/-- The directories up to which the paths of log lines are cut off, in the order of preference. -/
def pathAnchors : List String := [libraryDirectory, "src/"]

/-- The part of a path after the first occurrence of an anchor; the first anchor that occurs counts. -/
def shortPath (path : String) : String :=
  match pathAnchors.findSome? fun a => Text.afterFirst? a.toList path.toList with
  | some cs => String.ofList cs
  | none => path

end Record

end Stencil
