import Stencil.Compiled
import Stencil.Data.Merge

/-!
# Environments

An environment holds partials and global values for a group of templates. A template that belongs to an
environment is rendered with the partials of the environment, over which those of the call are put, and
with the globals behind the context.

How the globals are placed depends on the context: without a context they are the context themselves; a
mapping comes in front of them, so that its keys shadow theirs; any other context is used alone, and an
event says so.
-/

namespace Stencil

/-- Partials and globals for a group of templates. -/
structure Environment where
  partials : Entries
  globals : Entries
  deriving DecidableEq, Repr, Inhabited

namespace Environment

/-- The environment without partials and globals. -/
def empty : Environment := ⟨[], []⟩

/-- Register source under a name. Both have to be text; whether the source can be parsed is not asked. -/
def register (g : Graph) (e : Environment) (name source : Value) : Except Failure Environment :=
  match name, source with
  | .text _, .text _ => .ok { e with partials := g.put e.partials name source }
  | .text _, _ => .error (.argument (.sourceNotText (g.typeName source)))
  | _, _ => .error (.argument (.nameNotText (g.typeName name)))

/-- Register a list of partials one after the other. The environment keeps those that precede a
failure. -/
def registerAll (g : Graph) (e : Environment) : Entries → Option Failure × Environment
  | [] => (none, e)
  | (n, s) :: rest =>
    match e.register g n s with
    | .ok e => e.registerAll g rest
    | .error f => (some f, e)

/-- The entries of a value that should be a mapping. -/
def mappingEntries (g : Graph) (v : Value) : Run Entries := do
  match g.mapping? (← Run.memory) v with
  | some view => g.entriesOf view
  | none =>
    match g.attribute? v "items" with
    | some a => Run.fail (.notCallable (g.qualifiedTypeName a))
    | none => Run.fail (g.lacking v "items")

/-- A new environment. The globals are copied from a mapping or from pairs, the partials have to be a
mapping; values that count as false stand for none. -/
def make (g : Graph) (partials globals : Value) : Operation Environment := do
  let hasGlobals ← Operation.ofRun do Run.ofExcept (g.truth (← Run.memory) globals)
  let globalEntries ← if hasGlobals then Operation.ofRun (g.mergeOver [] globals) else pure []
  let hasPartials ← Operation.ofRun do Run.ofExcept (g.truth (← Run.memory) partials)
  let partialEntries ← if hasPartials then Operation.ofRun (mappingEntries g partials) else pure []
  match registerAll g ⟨[], globalEntries⟩ partialEntries with
  | (none, e) => return e
  | (some f, _) => throw f

/-- The partials of a rendering: those of the environment, and over them those of the call if they are a
mapping. -/
def partialsWith (g : Graph) (e : Environment) (partials : Value) : Run Scope := do
  match g.mapping? (← Run.memory) partials with
  | some view => return .record (g.putAll e.partials (← g.entriesOf view))
  | none => return .record e.partials

/-- The scope of a rendering: the context with the globals behind it. -/
def scopeWith (g : Graph) (settings : Settings) (e : Environment) (context : Value) : Run Scope := do
  if e.globals.isEmpty then return .value context
  match context, g.mapping? (← Run.memory) context with
  | .null, _ => return .record e.globals
  | _, some _ => return .layered context e.globals
  | _, none =>
    if settings.debug then Run.report (.globalsSkipped (g.typeName context))
    return .value context

/-- Render a template that belongs to the environment. -/
def render (g : Graph) (settings : Settings) (e : Environment) (t : Template)
    (context partials : Value) : Operation String := Operation.ofRun do
  let from' ← e.partialsWith g partials
  let scope ← e.scopeWith g settings context
  (Setting.mk g settings from').render t scope Stack.ordinary

end Environment

end Stencil
