import Stencil.Visit

/-!
# Partials in which the stack runs out

A partial that stands in no other contains an overflow of the stack in it, at whatever depth of blocks and of further
partials it happens. Whether that is so for a partial that is met is a question about a run without containment: the
partial is rendered as one inside others, from the state that it is met with, and the question is whether that ends in a
fault of the stack (`Stencil.Setting.overflows`).

What happens around the partials is a run of its own, in which the templates behind them show nothing
(`Stencil.Setting.outside`). And what the rest of a template shows is compared with renderings in which partials that
overflow are absent (`Stencil.Setting.Omits`).
-/

namespace Stencil

/-- Whether an event is that a partial was given up since the stack ran out in it. -/
def Event.isOverflow : Event → Bool
  | stackExceeded _ => true
  | parsed .. => false
  | expanding .. => false
  | limitReached .. => false
  | malformed .. => false
  | globalsSkipped _ => false

namespace Setting

/-- Whether the stack runs out while a partial is rendered that is met in no other, once its source is found. -/
def overflows (s : Setting) (v : Visit) : Bool :=
  match ((s.source? v.name).runFrom v.state).1,
    ((s.inclusionWithin s.settings.limit v.name v.scope v.stack).runFrom v.state).1 with
  | .ok _, .error f => f.kind = .recursion
  | _, _ => false

/-- **What happens around the template behind a partial** that is met in no other. Its source is asked for. The template
leaves the state behind that it is left in when it is rendered, but it shows nothing, and no fault in it counts. -/
def outside (s : Setting) (name : String) (scope : Scope) (stack : Stack) : Run String := do
  let σ ← get
  let _ ← s.source? name
  set ((s.outermost name scope stack).runFrom σ).2
  return ""

/-- Whether partials are rendered as those that stand in no other, with the exception of some in which the stack runs
out: these are absent. They show nothing and change nothing; what is noted in the log about them is left open. Only
such partials may be absent from which no table would have gained an entry. -/
def Omits (s : Setting) (inclusion : String → Scope → Stack → Run String) : Prop :=
  ∀ name scope stack τ,
    (inclusion name scope stack).runFrom τ = (s.outermost name scope stack).runFrom τ ∨
      s.overflows ⟨name, scope, stack, τ⟩ = true ∧
        ((s.outermost name scope stack).runFrom τ).2.memory.gained = τ.memory.gained ∧
        ∃ events, (inclusion name scope stack).runFrom τ = (.ok "", { τ with events })

/-- Partials as those that stand in no other, with the exception of all in which the stack runs out. -/
def withoutOverflows (s : Setting) (name : String) (scope : Scope) (stack : Stack) : Run String := do
  if s.overflows ⟨name, scope, stack, ← get⟩ then return "" else s.outermost name scope stack

end Setting

end Stencil
