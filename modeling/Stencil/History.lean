import Stencil.Correspondence
import Stencil.Workspace

/-!
# What a rendering owes to what was done before

A session is what is done in a workspace, one step after the other (`Stencil.Workspace.after`). Of all that is done,
what matters to a template is that it was made, that its environment was made, and what was done to that environment,
as far as it succeeded. `Stencil.Workspace.relevant` keeps these steps of a session and no others; no rendering is
among them.

Names do not tell which environment a step is about, since other environments may have gone by the same name. So
environments and templates go by number here, in the order in which they were made (`Stencil.Workspace.Subject`).
-/

namespace Stencil

/-- **Whether nothing about the objects of a graph can change**: no table has a default, and callables return the same
value each time. -/
structure Graph.IsStateless (g : Graph) : Prop where
  repliesConstantly : g.RepliesConstantly
  hasNoDefault {place : Nat} {factory : Factory} {fresh : Value} {es : Entries} :
    g.nodes[place]? ≠ some (.table (.defaulting factory fresh) es)

/-- Steps, each with the graph that its values belong to. -/
abbrev Session := List (Graph × Step)

/-- Whether a step is a single call that concerns environments or templates. Partials are registered one by one, and
the settings are left alone. -/
def Step.isCall : Step → Bool
  | .assignSettings .. => false
  | .resetSettings => false
  | .registerPartials _ pairs => pairs.length ≤ 1
  | _ => true

/-- Whether a step renders a template. -/
def Step.renders : Step → Bool
  | .render .. => true
  | .renderAlone .. => true
  | _ => false

/-- Whether a step was done: it neither failed nor mentioned what does not exist. -/
def Outcome.succeeded (o : Outcome) : Bool :=
  match o.result with
  | .ok .skipped => false
  | .ok _ => true
  | .error _ => false

namespace Workspace

/-- The workspace in which nothing was done yet, with some settings. -/
def start (settings : Settings) : Workspace := { initial with settings := settings }

/-- The workspace after a session. -/
def after (w : Workspace) : Session → Workspace
  | [] => w
  | (g, step) :: rest => (w.perform g step).2.after rest

/-- An environment or a template by its number, where those that were made first have the lowest. -/
inductive Subject
  | environment (number : Nat)
  | template (number : Nat)
  deriving DecidableEq, Repr

/-- The environment or the template that a step makes or is done to. Rendering is done to neither. -/
def subject? (w : Workspace) : Step → Option Subject
  | .makeEnvironment .. => some (.environment w.environments.size)
  | .registerPartials name _ => (w.environment? name).map fun e => .environment e.1
  | .setPartial name .. => (w.environment? name).map fun e => .environment e.1
  | .setGlobal name .. => (w.environment? name).map fun e => .environment e.1
  | .erasePartial name _ => (w.environment? name).map fun e => .environment e.1
  | .eraseGlobal name _ => (w.environment? name).map fun e => .environment e.1
  | .compile .. => some (.template w.templates.length)
  | _ => none

/-- The template that goes by a name with its number, and with the number of its environment. -/
def template? (w : Workspace) (name : String) : Option (Nat × Compiled × Option Nat) :=
  match w.templates.dropWhile fun t => t.1 != name with
  | [] => none
  | t :: earlier => some (earlier.length, t.2)

/-- Whether a subject is a template or the environment that it belongs to, by their numbers. -/
def Subject.concerns (template : Nat) (environment : Option Nat) : Subject → Bool
  | .environment number => environment = some number
  | .template number => number = template

/-- **The steps of a session that made a template, or made its environment or changed it.** -/
def relevant (w : Workspace) (template : Nat) (environment : Option Nat) : Session → Session
  | [] => []
  | (g, step) :: rest =>
    let (outcome, w') := w.perform g step
    let later := w'.relevant template environment rest
    if outcome.succeeded && (w.subject? step).any (Subject.concerns template environment) then
      (g, step) :: later
    else later

end Workspace

end Stencil
