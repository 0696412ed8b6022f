import Stencil.Stage

/-!
# Data that is safe to render

Rendering fails only where something fails that it asks for: where a callable raises, where a value cannot be tested or
has no text, where an object lacks a field that its type declares, where a sequence has too many elements for its size
to be counted, or where the stack is exhausted. This file says of what that is asked.

It is asked of what comes up at the stages that are passed, and of nothing else. A stage tests the values along the
path of the name that comes first, and what the name stands for (`Stencil.Setting.Tests`). If the name is a single key,
the scope is looked at as a map, and so is an element before it becomes the scope (`Stencil.Job.Views`). And it shows
what the name stands for, if that is not empty (`Stencil.Setting.Shows`). With that, `Stencil.Setting.IsSafe` has one
condition for each of the ways in which a rendering may fail.

The frames that the blocks of a template may take from the stack are counted here as well.
-/

namespace Stencil

/-! ### Room on the stack -/

/-- The frames that the body of a block may take. -/
def BlockKind.frames : BlockKind → Nat
  | .plain => max Stack.plainFrames Stack.iteratedFrames
  | .inverted => Stack.invertedFrames

/-- The frames that the blocks of a template may take, those in its partials not counted. -/
def Template.frames : Template → Nat
  | nil => 0
  | leaf _ rest => frames rest
  | block kind _ body rest => max (kind.frames + frames body) (frames rest)

/-! ### What is tested at a stage -/

namespace Graph

/-- Whether calling the callable at a place fails. -/
def FailsAt (g : Graph) (place : Nat) : Prop :=
  ∃ parameters kind text, g.nodes[place]? = some (.callable parameters (.fails kind text))

/-- The values that are tested while segments are followed from a value, with the states that they are tested in: the
value itself, if there is a segment, and if it is not empty, those from what is found there. -/
inductive TestsAlong (g : Graph) : Value → List String → RunState → Value → RunState → Prop
  | here {v : Value} {s : String} {ss : List String} {σ : RunState} : TestsAlong g v (s :: ss) σ v σ
  | further {v w x : Value} {s : String} {ss : List String} {σ ρ τ : RunState} : g.isEmpty σ.memory v = .ok false →
    (g.child v s).runFrom σ = (.ok w, ρ) → TestsAlong g w ss ρ x τ → TestsAlong g v (s :: ss) σ x τ

/-- The values that are tested while segments are followed from a scope. A scope that is no value is not tested
itself. -/
inductive TestsInScope (g : Graph) (scope : Scope) (σ : RunState) : List String → Value → RunState → Prop
  | value {u v : Value} {ss : List String} {τ : RunState} : scope = .value u → g.TestsAlong u ss σ v τ →
    TestsInScope g scope σ ss v τ
  | behind {w v : Value} {s : String} {ss : List String} {ρ τ : RunState} : (∀ u, scope ≠ .value u) →
    (g.scopeChild scope s).runFrom σ = (.ok w, ρ) → g.TestsAlong w ss ρ v τ → TestsInScope g scope σ (s :: ss) v τ

end Graph

/-- Whether the part that comes first looks a name up. -/
inductive Job.LooksUp (j : Job) (name : String) : Prop
  | leaf {l : Leaf} {rest : Template} : j.task = .template (.leaf l rest) → (Item.leaf l).lookedUp = some name →
    LooksUp j name
  | block {kind : BlockKind} {body rest : Template} : j.task = .template (.block kind name body rest) → LooksUp j name

/-- Whether a value is looked at as a map without having been tested before. -/
inductive Job.Views (j : Job) (v : Value) : Prop
  /-- The scope that a single key is looked up in. -/
  | scope {name : String} : j.LooksUp name → isPath name = false → j.scope = .value v → Views j v
  /-- The element that comes first. -/
  | element {t : Template} {vs : List Value} : j.task = .elements t (v :: vs) → Views j v

namespace Setting

/-- Whether a value is tested at a stage, and the memory that it is tested with. -/
inductive Tests (s : Setting) (a : Stage) : Value → Memory → Prop
  /-- A value along the path that is looked up. -/
  | along {name : String} {v : Value} {τ : RunState} : a.LooksUp name → isPath name = true →
    s.graph.TestsInScope a.scope a.state (segments name) v τ → Tests s a v τ.memory
  /-- What the name stands for. -/
  | found {name : String} {v : Value} {τ : RunState} : a.LooksUp name →
    (s.graph.lookup a.scope name).runFrom a.state = (.ok v, τ) → Tests s a v τ.memory

/-- Whether no entry of the partials fails when its truth is tested. -/
def Testable (s : Setting) (m : Memory) : Prop :=
  ∀ (name : String) (σ σ' : RunState) (view : MapView) (v : Value), s.graph.Evolves m σ.memory →
    s.graph.partialsView? σ.memory s.partials = some view →
    (s.graph.get (.text name) view).runFrom σ = (.ok v, σ') → ∃ b, s.graph.truth σ'.memory v = .ok b

/-- **Whether what is asked for at the stages that are passed from a stage on does not fail.** -/
structure IsSafe (s : Setting) (a : Stage) : Prop where
  /-- Callables that are called return. -/
  calls {b : Stage} {place : Nat} : s.Passes a b → s.Calls b place → ¬s.graph.FailsAt place
  /-- Testing a value for its truth fails only with a type or a value fault. -/
  truth {b : Stage} {v : Value} {m : Memory} {f : Fault} : s.Passes a b → s.Tests b v m → s.graph.truth m v = .error f →
    f.kind = .type ∨ f.kind = .value
  /-- The elements of a sequence can be counted. -/
  countable {b : Stage} {v : Value} {m : Memory} {xs : Elements} : s.Passes a b → s.Tests b v m →
    s.graph.elements? v = some xs → xs.size < Graph.sizeLimit
  /-- An object has all the fields that its type declares. -/
  declared {b : Stage} {v : Value} {type : String} {names : List String} {attributes : List (String × Value)} :
    s.Passes a b → (∃ m, s.Tests b v m) ∨ b.Views v → s.graph.node? v = some (.model type (some names) attributes) →
      ∀ name ∈ names, (attributes.lookup name).isSome
  /-- What is shown has a text. -/
  texts {b : Stage} {v : Value} {m : Memory} : s.Passes a b → s.Shows b v m → ∃ text, s.graph.display m v = .ok text
  /-- The entries of the partials that are asked for can be tested for their truth. -/
  entries {b : Stage} {name : String} {view : MapView} {v : Value} {τ : RunState} : s.Passes a b → b.Includes name →
    s.graph.partialsView? b.state.memory s.partials = some view →
    (s.graph.get (.text name) view).runFrom b.state = (.ok v, τ) → ∃ t, s.graph.truth τ.memory v = .ok t
  /-- Outside partials there are the frames on the stack that a body takes. -/
  room {b : Stage} {frames : Nat} {t : Template} : s.Passes a b → b.depth = 0 → b.task = .body frames t →
    ¬b.stack.Short frames

end Setting

end Stencil
