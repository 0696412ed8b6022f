import Stencil.Log.Record
import Stencil.Log.Json

/-!
# Log lines

A record is laid out as a line in one of two ways: as a JSON object for programs, or for people, with or
without colours. Both show the time, the severity, the scope and the message; the place in the program
is shown for the levels of debugging and of errors.

A line for people is a list of pieces, each plain or in a style. With colours a style is switched on in
front of its piece and off behind it; without colours the pieces stand alone, so that the two forms say
the same. What a record says is a piece as it is, and if it is no text the line cannot be put together.
-/

namespace Stencil

/-- The severities, by the level that they stand for exactly. -/
def severityNames : List (Int × String) :=
  [(10, "DEBUG"), (20, "INFO"), (30, "WARN"), (40, "ERROR"), (50, "FATAL")]

/-- The severity of a level. Levels between the standard ones count as information. -/
def severity (level : Int) : String := (severityNames.lookup level).getD "INFO"

/-- Whether records of a level show their place in the program. -/
def showsPlace (level : Int) : Bool := level == 10 || level == 40 || level == 50

/-- The name of the library in log lines. -/
def serviceName : String := "whisker"

/-- The version of the library, and what stands for it where it is not known. -/
def serviceVersion (known : Bool) : String := if known then "0.2.0" else "0.0.0"

/-! ### Lines for programs -/

namespace JsonLayout

/-- The place in the program as attributes, where the level shows it. -/
def placeAttributes (r : Record) : List (String × Value) :=
  if showsPlace r.level then [("code.filepath", .text (Record.shortPath r.path)), ("code.lineno", r.line)] else []

/-- The attributes of a record as fields of an object: the scope, the attributes that are shown, and the
place in the program, which takes the place of attributes of the same names. -/
def attributes (r : Record) (scope : Value) : List (String × Value) :=
  Record.setAll (Record.setAll [("scope", scope)] r.shownAttributes) (placeAttributes r)

/-- The document of a record. -/
def document (g : Graph) (version : String) (r : Record) : Run JsonTree := do
  let time ← Run.ofExcept (Clock.dateTime r.created)
  let scope ← Run.ofExcept (r.scope g (← Run.memory))
  let said ← r.said g
  let m ← Run.memory
  let body ← Run.ofExcept (g.json m said)
  let fields ← Run.ofExcept ((attributes r scope).mapM fun a => do return (a.1, ← g.json m a.2))
  return .object
    [("timestamp", .string (Clock.timestamp time)),
      ("severityText", .string (severity r.level)),
      ("body", body),
      ("attributes", .object fields),
      ("resource", .object [("service.name", .string serviceName), ("service.version", .string version)])]

/-- The line of a record. -/
def line (g : Graph) (version : String) (r : Record) : Run String := do
  return (← document g version r).text

end JsonLayout

/-! ### Lines for people -/

/-- The styles of pieces. -/
inductive Style
  | dim
  | red
  | yellow
  | cyan
  deriving DecidableEq, Repr

namespace Style

/-- The sequence that switches a style on. -/
def on : Style → String
  | dim => "\x1b[2m"
  | red => "\x1b[31m"
  | yellow => "\x1b[33m"
  | cyan => "\x1b[36m"

/-- The sequence that switches all styles off. -/
def off : String := "\x1b[0m"

/-- A text without the sequences that switch styles on and off: each runs from an escape character up to
the letter `m`. Inside a sequence if `inside` holds. -/
def strip (inside : Bool) : List Char → List Char
  | [] => []
  | c :: cs =>
    if inside then strip (c != 'm') cs
    else if c = '\x1b' then strip true cs
    else c :: strip false cs

end Style

/-- A piece of a line. -/
structure LinePiece where
  style : Option Style
  content : Value
  deriving DecidableEq, Repr

namespace LinePiece

/-- A piece of text. -/
def ofText (style : Option Style) (text : String) : LinePiece := ⟨style, .text text⟩

/-- The parts that a piece contributes to its line, with or without its style. -/
def parts (colours : Bool) (p : LinePiece) : List Value :=
  match colours, p.style with
  | true, some s => [.text s.on, p.content, .text Style.off]
  | _, _ => [p.content]

/-- Parts one after the other, the first of which has the given place. All have to be text. -/
def joinParts (g : Graph) : (place : Nat) → List Value → Except Fault String
  | _, [] => .ok ""
  | place, .text s :: rest => (joinParts g (place + 1) rest).map (s ++ ·)
  | place, v :: _ => .error (.partNotText place (g.qualifiedTypeName v))

/-- The pieces one after the other, with or without their styles. -/
def join (g : Graph) (colours : Bool) (ps : List LinePiece) : Except Fault String :=
  joinParts g 0 (ps.flatMap (parts colours))

end LinePiece

namespace HumanLayout

/-- The style of the severity of a level. -/
def levelStyle (level : Int) : Option Style :=
  if level ≤ 10 then some .dim
  else if 40 ≤ level then some .red
  else if 30 ≤ level then some .yellow
  else none

/-- A severity filled up with blanks to five characters, and one more. -/
def severityColumn (level : Int) : String :=
  let s := severity level
  s ++ String.ofList (List.replicate (5 - s.length) ' ') ++ " "

/-- The name of the partial that a record is about, if it is about one. -/
def partialPieces (g : Graph) (m : Memory) (r : Record) : Except Fault (List LinePiece) := do
  let name := r.attributeOf "partial"
  if ← g.truth m name then return [.ofText none (" (" ++ (← g.display m name) ++ ")")] else return []

/-- The place in the program, where the level shows it. -/
def placePieces (g : Graph) (m : Memory) (r : Record) : Except Fault (List LinePiece) := do
  if showsPlace r.level then
    return [.ofText (some .dim) (" [" ++ Record.shortPath r.path ++ ":" ++ (← g.display m r.line) ++ "]")]
  else return []

/-- The pieces of the line of a record. -/
def pieces (g : Graph) (r : Record) : Run (List LinePiece) := do
  let time ← Run.ofExcept (Clock.dateTime r.created)
  let scope ← Run.ofExcept (r.scope g (← Run.memory))
  let scopeText ← Run.ofExcept (g.display (← Run.memory) scope)
  let said ← r.said g
  let m ← Run.memory
  let about ← Run.ofExcept (partialPieces g m r)
  let place ← Run.ofExcept (placePieces g m r)
  return [.ofText none (Clock.timeText time), .ofText none " ", .ofText (levelStyle r.level) (severityColumn r.level),
    .ofText (some .cyan) ("[" ++ scopeText ++ "] "), ⟨none, said⟩] ++ about ++ place

/-- The line of a record. -/
def line (g : Graph) (colours : Bool) (r : Record) : Run String := do
  Run.ofExcept (LinePiece.join g colours (← pieces g r))

end HumanLayout

end Stencil
