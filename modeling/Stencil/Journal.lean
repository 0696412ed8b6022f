import Stencil.History
import Stencil.Overflow

/-!
# What the log says

All that a rendering reports is about the partials that it meets, and most of it is said when a partial is met
(`Stencil.Setting.record`). Only that the stack ran out is said when a partial is left, after all that is said of the
partials inside it. So the log can be told from the partials that a rendering meets (`Stencil.Setting.journal`), without
rendering anything again.

Source is read when a template is compiled, and when a partial is met that is not refused. Each `Stencil.Reading` is
told in the log if the source can be read and debug events are asked for. The readings of a step in a workspace are
those of the template that it compiles, or of the partials that it meets (`Stencil.Workspace.readings`).
-/

namespace Stencil

namespace Event

/-- Whether an event is a warning. -/
def isWarning (e : Event) : Bool := e.level = .warning

/-- Whether an event tells of source that was read. -/
def isReading : Event → Bool
  | parsed .. => true
  | expanding .. => true
  | limitReached .. => false
  | malformed .. => false
  | stackExceeded _ => false
  | globalsSkipped _ => false

end Event

/-- Source that is read: that of a template, or that of a partial, which is the `depth`-th around each other. -/
inductive Reading
  | template (source : String)
  | inclusion (name source : String) (depth : Nat)
  deriving DecidableEq, Repr

/-- **The events that tell of a reading.** There are none if the source cannot be read. -/
def Reading.events : Reading → List Event
  | template source =>
    match Template.parse source with
    | .error _ => []
    | .ok t => [.parsed source.length t.length]
  | inclusion name source depth =>
    match Template.parse source with
    | .error _ => []
    | .ok t => [.parsed source.length t.length, .expanding name depth]

/-- **Whether each partial that is said to be expanded is said to have been read right before**: the event before that
one tells of source that is read and is that of the partial. -/
def Heralded (rs : List Reading) (es : List Event) : Prop :=
  ∀ before name depth after, es = before ++ .expanding name depth :: after →
    ∃ earlier source t, before = earlier ++ [.parsed source.length t.length] ∧ Template.parse source = .ok t ∧
      .inclusion name source depth ∈ rs

namespace Setting

/-! ### The partials of a rendering -/

/-- What is reported when a partial is met, apart from what is inside it. -/
def record (s : Setting) (e : Encounter) : List Event :=
  match ((s.source? e.visit.name).runFrom e.visit.state).1 with
  | .ok (some source) =>
    if e.around.length < s.settings.limit then
      match Template.parse source with
      | .error cause => [.malformed e.visit.name cause]
      | .ok t =>
        if s.settings.debug then
          [.parsed source.length t.length, .expanding e.visit.name (e.around.length + 1)]
        else []
    else [.limitReached e.visit.name s.settings.limit]
  | _ => []

/-- A partial that is met in no other, and those inside it. -/
def encountersAt (s : Setting) (v : Visit) : List Encounter :=
  ⟨[], v⟩ :: s.inside 1 v fun body inner τ =>
    s.encountersWithin (s.settings.limit - 1) [v.name] body v.scope inner τ

/-- **All that a rendering reports**, in this order: what is reported when partials are met, and after what is inside a
partial in no other that the stack ran out in it. -/
def journal (s : Setting) (t : Template) (scope : Scope) (stack : Stack) (σ : RunState) : List Event :=
  (visits s.graph s.outermost t scope stack σ).flatMap fun v =>
    (s.encountersAt v).flatMap s.record ++ if s.overflows v then [.stackExceeded v.name] else []

/-- The source that is read when a partial is met. None is read if the partial is refused. -/
def reading? (s : Setting) (e : Encounter) : Option Reading :=
  match ((s.source? e.visit.name).runFrom e.visit.state).1 with
  | .ok (some source) =>
    if e.around.length < s.settings.limit then some (.inclusion e.visit.name source (e.around.length + 1)) else none
  | _ => none

/-- The source that is read by a rendering, one partial after the other. -/
def readings (s : Setting) (t : Template) (scope : Scope) (stack : Stack) (σ : RunState) : List Reading :=
  (s.encounters t scope stack σ).filterMap s.reading?

end Setting

/-! ### The steps of a session -/

/-- The source that is read to compile a value. -/
def Compiled.readings : Value → List Reading
  | .text source => if source = "" then [] else [.template source]
  | _ => []

/-- The source that is read by a rendering outside all environments. -/
def readingsAlone (g : Graph) (settings : Settings) (t : Template) (context partials : Value) (σ : RunState) :
    List Reading :=
  (Setting.mk g settings (.value partials)).readings t (.value context) Stack.ordinary σ

/-- The source that is read by a rendering with an environment. -/
def Environment.readings (g : Graph) (settings : Settings) (e : Environment) (t : Template) (context partials : Value)
    (σ : RunState) : List Reading :=
  (e.partialsWith g partials).after σ fun from' σ =>
    (e.scopeWith g settings context).after σ fun scope σ =>
      (Setting.mk g settings from').readings t scope Stack.ordinary σ

/-- Whether a step assigns settings or answers with them. -/
def Step.concernsSettings : Step → Bool
  | .assignSettings .. => true
  | .resetSettings => true
  | .readSettings => true
  | _ => false

/-- The settings with debug events asked for, or not. -/
def Settings.withDebug (s : Settings) (debug : Bool) : Settings := { s with debug }

namespace Workspace

/-- The workspace with debug events asked for, or not. -/
def withDebug (w : Workspace) (debug : Bool) : Workspace := { w with settings := w.settings.withDebug debug }

/-- **The source that is read by a step.** -/
def readings (g : Graph) (w : Workspace) (step : Step) : List Reading :=
  match step with
  | .compile _ source none => Compiled.readings source
  | .compile _ source (some environment) =>
    match w.environment? environment with
    | none => []
    | some _ => Compiled.readings source
  | .render name context partials =>
    match w.templates.lookup name with
    | none => []
    | some (c, number) =>
      match w.home? number with
      | none => readingsAlone g w.settings c.template context partials ⟨w.memory, #[]⟩
      | some e => e.readings g w.settings c.template context partials ⟨w.memory, #[]⟩
  | .renderAlone name context partials =>
    match w.templates.lookup name with
    | none => []
    | some (c, _) => readingsAlone g w.settings c.template context partials ⟨w.memory, #[]⟩
  | _ => []

end Workspace

end Stencil
