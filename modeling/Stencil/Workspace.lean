import Stencil.Environment

/-!
# Workspaces

A workspace is what a program that uses the library has at a time: the settings, the environments that
were made and the names they go by, and the compiled templates with the environment that each belongs
to. `Step` lists what can be done next and `Workspace.perform` does it. A step that fails leaves behind
only what it did before it failed, and a step that mentions what does not exist does nothing.

A template belongs to an environment, not to a name: if another environment is made under the name, the
template stays with the old one.
-/

namespace Stencil

/-- One thing to do in a workspace. Environments and templates go by names. -/
inductive Step
  | recall (v : Value)
  | assignSettings (debug limit : Option Value)
  | resetSettings
  | readSettings
  | makeEnvironment (name : String) (partials globals : Value)
  | registerPartials (name : String) (pairs : Entries)
  | setPartial (name : String) (key value : Value)
  | setGlobal (name : String) (key value : Value)
  | erasePartial (name : String) (key : Value)
  | eraseGlobal (name : String) (key : Value)
  | readEnvironment (name : String)
  | compile (template : String) (source : Value) (environment : Option String)
  | render (template : String) (context partials : Value)
  /-- Render without the environment that the template belongs to. -/
  | renderAlone (template : String) (context partials : Value)
  deriving DecidableEq, Repr, Inhabited

/-- What a step answers. -/
inductive Answer
  | skipped
  | value (v : Value)
  | settings (s : Settings)
  | environment (e : Environment)
  | compiled (c : Compiled)
  | output (s : String)
  deriving DecidableEq, Repr

/-- The answer of a step or its failure, and the events on the way. -/
structure Outcome where
  result : Except Failure Answer
  events : Array Event

/-- Settings, environments, and compiled templates. -/
structure Workspace where
  settings : Settings
  /-- All environments that were ever made, by number. -/
  environments : Array Environment
  /-- The number of the environment that goes by a name, the latest first. -/
  environmentNames : List (String × Nat)
  /-- The template that goes by a name with the number of its environment, the latest first. -/
  templates : List (String × Compiled × Option Nat)
  memory : Memory

namespace Workspace

/-- The workspace in which nothing was done yet. -/
def initial : Workspace := ⟨.initial, #[], [], [], .fresh⟩

instance : Inhabited Workspace := ⟨initial⟩

/-- The environment that goes by a name, with its number. -/
def environment? (w : Workspace) (name : String) : Option (Nat × Environment) := do
  let i ← w.environmentNames.lookup name
  let e ← w.environments[i]?
  some (i, e)

/-- The environment with a number, if there is a number. -/
def home? (w : Workspace) (number : Option Nat) : Option Environment := do w.environments[← number]?

/-- Do an operation, whose effects on the memory remain. -/
def carryOut {α : Type} (w : Workspace) (t : Operation α) : Except Failure α × Array Event × Workspace :=
  let (r, s) := t.runFrom ⟨w.memory, #[]⟩
  (r, s.events, { w with memory := s.memory })

/-- Change the environment that goes by a name and answer with it as it is then. -/
def change (w : Workspace) (name : String) (f : Environment → Option Failure × Environment) :
    Outcome × Workspace :=
  match w.environment? name with
  | none => (⟨.ok .skipped, #[]⟩, w)
  | some (i, e) =>
    let (failure, e) := f e
    let w := { w with environments := w.environments.setIfInBounds i e }
    match failure with
    | none => (⟨.ok (.environment e), #[]⟩, w)
    | some f => (⟨.error f, #[]⟩, w)

/-- Replace part of an environment by the result of a change that may end in a fault. -/
def updateTo (e : Environment) (f : Except Fault Environment) : Option Failure × Environment :=
  match f with
  | .ok e => (none, e)
  | .error f => (some (.fault f), e)

/-- Compile source and keep the template under a name. -/
def compileAs (w : Workspace) (g : Graph) (name : String) (source : Value) (number : Option Nat) :
    Outcome × Workspace :=
  match w.carryOut (Compiled.ofValue g w.settings source) with
  | (.ok c, events, w) =>
    (⟨.ok (.compiled c), events⟩, { w with templates := (name, c, number) :: w.templates })
  | (.error f, events, w) => (⟨.error f, events⟩, w)

/-- Render a template with an operation and answer with the output. -/
def renderAs (w : Workspace) (t : Operation String) : Outcome × Workspace :=
  match w.carryOut t with
  | (.ok s, events, w) => (⟨.ok (.output s), events⟩, w)
  | (.error f, events, w) => (⟨.error f, events⟩, w)

/-- Do a step. -/
def perform (g : Graph) (w : Workspace) (step : Step) : Outcome × Workspace :=
  match step with
  | .recall v => (⟨.ok (.value v), #[]⟩, w)
  | .assignSettings debug limit =>
    match w.settings.assign g debug limit with
    | (none, s) => (⟨.ok (.settings s), #[]⟩, { w with settings := s })
    | (some f, s) => (⟨.error f, #[]⟩, { w with settings := s })
  | .resetSettings => (⟨.ok (.settings .initial), #[]⟩, { w with settings := .initial })
  | .readSettings => (⟨.ok (.settings w.settings), #[]⟩, w)
  | .makeEnvironment name partials globals =>
    match w.carryOut (Environment.make g partials globals) with
    | (.ok e, events, w) =>
      (⟨.ok (.environment e), events⟩,
        { w with
          environments := w.environments.push e
          environmentNames := (name, w.environments.size) :: w.environmentNames })
    | (.error f, events, w) => (⟨.error f, events⟩, w)
  | .registerPartials name pairs => w.change name fun e => e.registerAll g pairs
  | .setPartial name key value => w.change name fun e =>
    updateTo e ((g.putChecked e.partials key value).map fun es => { e with partials := es })
  | .setGlobal name key value => w.change name fun e =>
    updateTo e ((g.putChecked e.globals key value).map fun es => { e with globals := es })
  | .erasePartial name key => w.change name fun e =>
    updateTo e ((g.eraseChecked e.partials key).map fun es => { e with partials := es })
  | .eraseGlobal name key => w.change name fun e =>
    updateTo e ((g.eraseChecked e.globals key).map fun es => { e with globals := es })
  | .readEnvironment name => w.change name fun e => (none, e)
  | .compile name source none => w.compileAs g name source none
  | .compile name source (some environment) =>
    match w.environment? environment with
    | none => (⟨.ok .skipped, #[]⟩, w)
    | some (i, _) => w.compileAs g name source (some i)
  | .render name context partials =>
    match w.templates.lookup name with
    | none => (⟨.ok .skipped, #[]⟩, w)
    | some (c, number) =>
      match w.home? number with
      | none => w.renderAs (Stencil.renderAlone g w.settings c.template context partials)
      | some e => w.renderAs (e.render g w.settings c.template context partials)
  | .renderAlone name context partials =>
    match w.templates.lookup name with
    | none => (⟨.ok .skipped, #[]⟩, w)
    | some (c, _) => w.renderAs (Stencil.renderAlone g w.settings c.template context partials)

end Workspace

end Stencil
