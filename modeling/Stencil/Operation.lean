import Stencil.Data.Run
import Stencil.Failure

/-!
# Operations

What users of the library call are operations: runs that may also fail because of their arguments.
-/

namespace Stencil

/-- A computation with effects on a `RunState` that may end in a failure. -/
abbrev Operation (α : Type) := ExceptT Failure (StateM RunState) α

namespace Operation

/-- A run as an operation. -/
def ofRun {α : Type} (r : Run α) : Operation α :=
  ExceptT.adapt Failure.fault r

/-- A pure result or a failure as an operation. -/
def ofExcept {α : Type} : Except Failure α → Operation α
  | .ok a => pure a
  | .error e => throw e

/-- The result of an operation and the state after it. -/
def runFrom {α : Type} (t : Operation α) (s : RunState) : Except Failure α × RunState := t.run.run s

end Operation

end Stencil
