import Stencil.Failure
import Stencil.Data.Display

/-!
# Settings

Two settings apply to all rendering: whether debug events are reported, and how many partials may be
rendered inside each other. They are assigned arbitrary values, of which only the fitting ones are
taken; an assignment that fails leaves the settings as they were.
-/

namespace Stencil

/-- The settings. At least one partial may always be rendered. -/
structure Settings where
  debug : Bool
  limit : Nat
  one_le_limit : 1 ≤ limit
  deriving DecidableEq, Repr

namespace Settings

/-- No debug events, and up to 64 partials inside each other. -/
def initial : Settings := ⟨false, 64, by decide⟩

instance : Inhabited Settings := ⟨initial⟩

/-- Assign a value to the switch for debug events, which has to be a truth value. -/
def setDebug (s : Settings) (g : Graph) (v : Value) : Except Failure Settings :=
  match v with
  | .bool b => .ok { s with debug := b }
  | _ => .error (.argument (.debugNotBool (g.typeName v)))

/-- Assign a value to the limit of nesting, which has to be an integer of at least one. A truth value is
no integer here. -/
def setLimit (s : Settings) (g : Graph) (v : Value) : Except Failure Settings :=
  match v with
  | .int n =>
    if h : 1 ≤ n then .ok ⟨s.debug, n.toNat, by omega⟩
    else
      match Graph.integerText n with
      | .ok text => .error (.argument (.limitTooSmall n text))
      | .error f => .error (.fault f)
  | _ => .error (.argument (.limitNotInteger (g.typeName v)))

/-- Assign a value if one is given. -/
def assignIfGiven (s : Settings) (assign : Value → Except Failure Settings) :
    Option Value → Except Failure Settings
  | none => .ok s
  | some v => assign v

/-- Assign the settings that are given, the switch first. What is assigned before a failure stays
assigned. -/
def assign (s : Settings) (g : Graph) (debug limit : Option Value) : Option Failure × Settings :=
  match s.assignIfGiven (s.setDebug g) debug with
  | .error f => (some f, s)
  | .ok s =>
    match s.assignIfGiven (s.setLimit g) limit with
    | .error f => (some f, s)
    | .ok s => (none, s)

/-- The settings as text. -/
def display (s : Settings) : Except Fault String := do
  return "TemplateConfig(debug=" ++ Graph.boolText s.debug ++ ", max_partial_depth=" ++
    (← Graph.integerText s.limit) ++ ")"

end Settings

end Stencil
