import Stencil.Log.Logger

/-!
# What the arguments of a set-up ask for

The logger is set up with a level and the name of a layout, which may be any values. This file says what they ask for,
without regard to how the set-up goes about it: which name of a layout is selected (`Stencil.Surroundings.Selects`), and
which level is given (`Stencil.GivesLevel`). Not all values ask for anything: only some can be read as the name of a
layout (`Stencil.Graph.NamesLayout`), and fewer as a level (`Stencil.Value.IsLevel`).
-/

namespace Stencil

/-- Whether a value can be read as the name of a layout: it is text or bytes, or an object with a lower case of its own,
or it counts as false and leaves the choice to the surroundings. -/
inductive Graph.NamesLayout (g : Graph) (σ : RunState) : Value → Prop
  | text (name : String) : g.NamesLayout σ (.text name)
  | bytes (bs : List UInt8) : g.NamesLayout σ (.bytes bs)
  | buffer {v : Value} {bs : List UInt8} (h : g.node? v = some (.buffer bs)) : g.NamesLayout σ v
  | own {v answer : Value} (hv : g.truth σ.memory v = .ok true) (h : ((g.ownLower v).runFrom σ).1 = .ok answer) :
      g.NamesLayout σ v
  | missing {v : Value} (h : g.truth σ.memory v = .ok false) : g.NamesLayout σ v

/-- **The name that is selected**, in lower case: the argument, or if it counts as false the environment variable, or if
that is not set or empty the name for the kind of error stream. Bytes select no name, and other objects one only if it
is their own lower case. -/
inductive Surroundings.Selects (s : Surroundings) (g : Graph) (σ : RunState) : Value → String → Prop
  | given {name : String} (h : name ≠ "") : s.Selects g σ (.text name) (Text.lower name)
  | own {v : Value} {name : String} (hv : g.truth σ.memory v = .ok true)
      (h : ((g.ownLower v).runFrom σ).1 = .ok (.text name)) : s.Selects g σ v name
  | environment {v : Value} {name : String} (hv : g.truth σ.memory v = .ok false)
      (hvariable : s.layoutVariable = some name) (h : name ≠ "") : s.Selects g σ v (Text.lower name)
  | stream {v : Value} (hv : g.truth σ.memory v = .ok false) (h : ∀ name, s.layoutVariable = some name → name = "") :
      s.Selects g σ v (if s.terminal then "human" else "json")

/-- Whether a layout is the one that is selected: that for machines if its name is, and lines for people otherwise. -/
def Surroundings.IsSelected (s : Surroundings) (g : Graph) (σ : RunState) (v : Value) (chosen : Layout) : Prop :=
  (chosen = .json ↔ s.Selects g σ v "json") ∧ (chosen ≠ .json → chosen = .human s.terminal)

/-- Whether a value can be read as a level. -/
def Value.IsLevel : Value → Prop
  | .text _ => True
  | .int _ => True
  | .bool _ => True
  | _ => False

/-- **The level that a value gives**: that of a name in any case, which is the level of information if the name is
unknown, or the number itself. -/
inductive GivesLevel : Value → LoggerLevel → Prop
  | known {name : String} {n : Int} (h : levelNames.lookup (Text.lower name) = some n) :
      GivesLevel (.text name) (.number n)
  | unknown {name : String} (h : levelNames.lookup (Text.lower name) = none) : GivesLevel (.text name) (.number 20)
  | int (n : Int) : GivesLevel (.int n) (.number n)
  | bool (b : Bool) : GivesLevel (.bool b) (.truth b)

end Stencil
