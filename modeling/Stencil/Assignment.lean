import Mathlib.Algebra.Group.Nat.Defs
import Stencil.History

/-!
# Assignments to the settings

Anything can be assigned to a setting, at any time. `Stencil.Assignment` is what can be done to the settings, and
`Stencil.Settings.Takes` says which of it is taken: a truth value as the switch for debug events, and an integer of at
least one as the limit of nesting. All the rest is rejected (`Stencil.Assignment.IsRejected`).

A rejected value is mentioned in the report, by its type or, if it is an integer, by its numeral. There are integers
without one (`Stencil.Assignment.IsTooLong`).
-/

namespace Stencil

/-- A value is assigned to one of the settings, or both are reset. -/
inductive Assignment
  | debug (v : Value)
  | limit (v : Value)
  | reset
  deriving DecidableEq, Repr, Inhabited

namespace Assignment

/-- The step that makes the assignment. -/
def step : Assignment → Step
  | debug v => .assignSettings (some v) none
  | limit v => .assignSettings none (some v)
  | reset => .resetSettings

/-- Assignments one after the other, each with the graph that its value belongs to. -/
def session (changes : List (Graph × Assignment)) : Session := changes.map fun c => (c.1, c.2.step)

/-- Whether the value is of the wrong type or, if it is to be the limit, an integer below one. -/
def IsRejected : Assignment → Prop
  | debug v => ∀ b, v ≠ .bool b
  | limit v => ∀ n, v = .int n → n < 1
  | reset => False

/-- Whether an integer is to be the limit that is below one and has too many digits to be mentioned. -/
def IsTooLong (a : Assignment) : Prop :=
  ∃ n : Int, a = limit (.int n) ∧ n < 1 ∧ 10 ^ Number.digitLimit ≤ n.natAbs

/-- What the switch for debug events is after the assignment, if that can be told from the assignment. -/
def debug? : Assignment → Option Bool
  | debug (.bool b) => some b
  | debug _ => none
  | limit _ => none
  | reset => some false

/-- What the limit of nesting is after the assignment, if that can be told from the assignment. -/
def limit? : Assignment → Option Int
  | debug _ => none
  | limit (.int n) => if 1 ≤ n then some n else none
  | limit _ => none
  | reset => some 64

end Assignment

/-- The settings after an assignment, or why it is not taken. -/
def Settings.revise (s : Settings) (g : Graph) : Assignment → Except Failure Settings
  | .debug v => s.setDebug g v
  | .limit v => s.setLimit g v
  | .reset => .ok .initial

/-- **The settings after an assignment that is taken**: it changes its own setting to the value, and nothing else. -/
inductive Settings.Takes (s : Settings) : Assignment → Settings → Prop
  | debug (b : Bool) : s.Takes (.debug (.bool b)) { s with debug := b }
  | limit (n : Nat) (h : 1 ≤ n) : s.Takes (.limit (.int n)) { s with limit := n, one_le_limit := h }
  | reset : s.Takes .reset .initial

end Stencil
