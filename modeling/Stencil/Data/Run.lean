import Stencil.Data.Fault
import Stencil.Log.Event

/-!
# Runs

Looking up and rendering values have effects: callables count their calls, tables with a default gain
entries, and events are reported. A `Run` is a computation with these effects that ends in a value or in
a fault. The effects that precede a fault remain.
-/

namespace Stencil

/-- What has changed about the objects of a graph. -/
structure Memory where
  /-- The places of the callables that were called, the latest call first. -/
  called : List Nat
  /-- The entries that the table at a place has gained. -/
  gained : Nat → Entries

namespace Memory

/-- Nothing has been called and no table has gained an entry. -/
def fresh : Memory := ⟨[], fun _ => []⟩

instance : Inhabited Memory := ⟨fresh⟩

/-- How often the callable at a place has been called. -/
def calls (m : Memory) (place : Nat) : Nat := m.called.count place

/-- One more call of the callable at a place. -/
def call (m : Memory) (place : Nat) : Memory := { m with called := place :: m.called }

/-- One more entry of the table at a place. -/
def gain (m : Memory) (place : Nat) (key value : Value) : Memory :=
  { m with gained := fun i => if i = place then m.gained place ++ [(key, value)] else m.gained i }

end Memory

/-- Whether a memory may become another one: by calls, and by tables with a default that gain entries, which
hold the default. -/
inductive Graph.Evolves (g : Graph) (m : Memory) : Memory → Prop
  | refl : Evolves g m m
  | call {m' : Memory} (place : Nat) : Evolves g m m' → Evolves g m (m'.call place)
  | gain {m' : Memory} {place : Nat} {factory : Factory} {fresh : Value} {es : Entries} (key : Value) :
    g.nodes[place]? = some (.table (.defaulting factory fresh) es) → Evolves g m m' →
    Evolves g m (m'.gain place key fresh)

/-- The state of a run: the memory, and the events reported so far. -/
structure RunState where
  memory : Memory
  events : Array Event
  deriving Inhabited

/-- The events reported since an earlier state. -/
def RunState.reportedSince (earlier later : RunState) : List Event :=
  later.events.toList.drop earlier.events.toList.length

/-- A computation with effects on a `RunState` that may end in a fault. -/
abbrev Run (α : Type) := ExceptT Fault (StateM RunState) α

namespace Run

/-- The result of a run and the state after it. -/
def runFrom {α : Type} (r : Run α) (s : RunState) : Except Fault α × RunState := r.run.run s

/-- The memory as it is now. -/
def memory : Run Memory := do return (← get).memory

/-- Report an event. -/
def report (e : Event) : Run Unit := modify fun s => { s with events := s.events.push e }

/-- End in a fault. -/
def fail {α : Type} (f : Fault) : Run α := throw f

/-- A pure result or a fault as a run. -/
def ofExcept {α : Type} : Except Fault α → Run α
  | .ok a => pure a
  | .error f => fail f

/-- A run inside an iteration, which a fault in it leaves. -/
def insideIteration {α : Type} (r : Run α) : Run α := tryCatch r fun f => fail f.outOfIteration

end Run

end Stencil
