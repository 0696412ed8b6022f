import Stencil.Render

/-!
# The partials that a rendering meets

Which partials a rendering meets, in which order and with which scopes, is decided while it goes on: a block is rendered
for each of the elements that its name stands for then, and the template behind a partial is read when the partial is
met. This file follows a rendering and notes down the partials on its way. Nothing is rendered for that but what is
rendered anyway: each definition has the shape of the one that it follows, and where that one goes on with what a run
ends in, so does this one (`Stencil.Run.after`).

A `Stencil.Visit` is a partial that is met in a template, with all that its rendering depends on.
`Stencil.Setting.encounters` are all of them, those in the templates behind other partials included, each with the names
of the partials around it.
-/

namespace Stencil

/-- A partial that is met: its name, and the scope, the stack and the state that it is met with. -/
structure Visit where
  name : String
  scope : Scope
  stack : Stack
  state : RunState

/-- What is noted down of what comes after a run from a state, given the value and the state that the run ends in.
Nothing comes after a fault. -/
def Run.after {α β : Type} (r : Run α) (σ : RunState) (next : α → RunState → List β) : List β :=
  match r.runFrom σ with
  | (.ok x, τ) => next x τ
  | (.error _, _) => []

namespace Graph

/-- The partials that are met while values are rendered by `f` one after the other. -/
def visitsOfAll (f : Value → Run String) (visits : Value → RunState → List Visit) :
    List Value → RunState → List Visit
  | [], _ => []
  | v :: vs, σ => visits v σ ++ (f v).after σ fun _ τ => visitsOfAll f visits vs τ

/-- The partials that a plain block meets, given how its body is rendered and what the body meets. -/
def visitsOfPlain (g : Graph) (scope : Scope) (stack : Stack) (name : String) (body : Scope → Stack → Run String)
    (inside : Scope → Stack → RunState → List Visit) (σ : RunState) : List Visit :=
  (g.lookup scope name).after σ fun v σ =>
    (g.empty? v).after σ fun empty σ =>
      if empty then [] else
        match g.elements? v with
        | some xs =>
          visitsOfAll
            (fun x => do
              let inner ← g.elementScope x
              body inner (← stack.enter Stack.iteratedFrames))
            (fun x σ => (g.elementScope x).after σ fun inner σ =>
              (stack.enter Stack.iteratedFrames).after σ fun left σ => inside inner left σ)
            xs.toList σ
        | none =>
          (g.blockScope scope v).after σ fun inner σ =>
            (stack.enter Stack.plainFrames).after σ fun left σ => inside inner left σ

/-- The partials that an inverted block meets, given what its body meets. -/
def visitsOfInverted (g : Graph) (scope : Scope) (stack : Stack) (name : String)
    (inside : Scope → Stack → RunState → List Visit) (σ : RunState) : List Visit :=
  (g.lookup scope name).after σ fun v σ =>
    (g.empty? v).after σ fun empty σ =>
      if empty then (stack.enter Stack.invertedFrames).after σ fun left σ => inside scope left σ else []

end Graph

/-- The partials that a leaf meets: itself, if it is one. -/
def visitsOfLeaf (l : Leaf) (scope : Scope) (stack : Stack) (σ : RunState) : List Visit :=
  match l with
  | .inclusion n => [⟨n, scope, stack, σ⟩]
  | .text _ => []
  | .name _ => []
  | .raw _ => []

/-- The partials that a block meets, given how its body is rendered and what the body meets. -/
def visitsOfBlock (g : Graph) (kind : BlockKind) (name : String) (body : Scope → Stack → Run String)
    (inside : Scope → Stack → RunState → List Visit) (scope : Scope) (stack : Stack) (σ : RunState) : List Visit :=
  match kind with
  | .plain => g.visitsOfPlain scope stack name body inside σ
  | .inverted => g.visitsOfInverted scope stack name inside σ

/-- **The partials that a template meets**, given how partials are rendered. -/
def visits (g : Graph) (inclusion : String → Scope → Stack → Run String) :
    Template → Scope → Stack → RunState → List Visit
  | .nil, _, _, _ => []
  | .leaf l rest, scope, stack, σ =>
    visitsOfLeaf l scope stack σ ++
      (renderLeaf g inclusion l scope stack).after σ fun _ τ => visits g inclusion rest scope stack τ
  | .block kind name body rest, scope, stack, σ =>
    visitsOfBlock g kind name (renderParts g inclusion body) (visits g inclusion body) scope stack σ ++
      (renderBlock g kind name (renderParts g inclusion body) scope stack).after σ fun _ τ =>
        visits g inclusion rest scope stack τ

namespace Setting

/-! ### How partials are rendered -/

/-- How a partial is rendered that stands in a template inside partials, where `left` further ones may be rendered
inside each other. -/
def inclusionWithin (s : Setting) : (left : Nat) → String → Scope → Stack → Run String
  | 0, name, _, _ => do
    match ← s.source? name with
    | none => return ""
    | some _ =>
      Run.report (.limitReached name s.settings.limit)
      return ""
  | left + 1, name, scope, stack => do
    match ← s.source? name with
    | none => return ""
    | some source =>
      s.expand name source (s.settings.limit - left) fun t => do
        s.renderWithin left t scope (← stack.enter Stack.partialFrames)

/-- How a partial is rendered that stands in no other. -/
def outermost (s : Setting) (name : String) (scope : Scope) (stack : Stack) : Run String := do
  match ← s.source? name with
  | none => return ""
  | some source =>
    s.expand name source 1 fun t =>
      containOverflow name do
        s.renderWithin (s.settings.limit - 1) t scope (← stack.enter Stack.partialFrames)

theorem renderWithin_eq (s : Setting) (left : Nat) (t : Template) (scope : Scope) (stack : Stack) :
    s.renderWithin left t scope stack = renderParts s.graph (s.inclusionWithin left) t scope stack := by
  cases left <;> rfl

theorem inclusionWithin_succ (s : Setting) (left : Nat) (name : String) (scope : Scope) (stack : Stack) :
    s.inclusionWithin (left + 1) name scope stack = (do
      match ← s.source? name with
      | none => return ""
      | some source =>
        s.expand name source (s.settings.limit - left) fun t => do
          s.renderWithin left t scope (← stack.enter Stack.partialFrames)) := rfl

theorem render_eq (s : Setting) (t : Template) (scope : Scope) (stack : Stack) :
    s.render t scope stack = renderParts s.graph s.outermost t scope stack := rfl

/-! ### Partials inside partials -/

/-- What is noted down of the template behind a partial, the `depth`-th around each other, if it is rendered: the
template is followed with the stack and the state that it is rendered with. -/
def inside {β : Type} (s : Setting) (depth : Nat) (v : Visit) (next : Template → Stack → RunState → List β) : List β :=
  (s.source? v.name).after v.state fun source? σ =>
    match source? with
    | none => []
    | some source =>
      match Template.parse source with
      | .error _ => []
      | .ok t =>
        (s.debug (.parsed source.length t.length)).after σ fun _ σ =>
          (s.debug (.expanding v.name depth)).after σ fun _ σ =>
            (v.stack.enter Stack.partialFrames).after σ fun left σ => next t left σ

/-- Whether a partial that is met is rendered in place: there is source for it, which can be read. -/
def Expands (s : Setting) (v : Visit) : Prop :=
  ∃ source t, ((s.source? v.name).runFrom v.state).1 = .ok (some source) ∧ Template.parse source = .ok t

/-- A partial that is met, and the names of the partials around it, from the outermost to the innermost. -/
structure Encounter where
  around : List String
  visit : Visit

/-- The partials that a template inside partials meets and those inside these, where `left` further ones may be
rendered inside each other. -/
def encountersWithin (s : Setting) :
    (left : Nat) → (around : List String) → Template → Scope → Stack → RunState → List Encounter
  | 0, around, t, scope, stack, σ => (visits s.graph (s.inclusionWithin 0) t scope stack σ).map (.mk around)
  | left + 1, around, t, scope, stack, σ =>
    (visits s.graph (s.inclusionWithin (left + 1)) t scope stack σ).flatMap fun v =>
      ⟨around, v⟩ :: s.inside (s.settings.limit - left) v fun body inner τ =>
        s.encountersWithin left (around ++ [v.name]) body v.scope inner τ

/-- **The partials that a rendering meets**, each followed by those inside it. -/
def encounters (s : Setting) (t : Template) (scope : Scope) (stack : Stack) (σ : RunState) : List Encounter :=
  (visits s.graph s.outermost t scope stack σ).flatMap fun v =>
    ⟨[], v⟩ :: s.inside 1 v fun body inner τ =>
      s.encountersWithin (s.settings.limit - 1) [v.name] body v.scope inner τ

/-- What is reported of a partial about how deep it is nested. That is nothing if there is no source for it. A partial
with fewer others around it than allowed is expanded, if it can be read, and is one deeper than these; it is refused if
there are as many around it as allowed. -/
def announcement (s : Setting) (e : Encounter) : Option Event :=
  match ((s.source? e.visit.name).runFrom e.visit.state).1 with
  | .ok (some source) =>
    if e.around.length < s.settings.limit then
      if s.settings.debug && (Template.parse source).isOk then
        some (.expanding e.visit.name (e.around.length + 1))
      else none
    else some (.limitReached e.visit.name s.settings.limit)
  | _ => none

end Setting

/-- Whether an event is about how deep a partial is nested. -/
def Event.isNesting : Event → Bool
  | expanding .. => true
  | limitReached .. => true
  | parsed .. => false
  | malformed .. => false
  | stackExceeded _ => false
  | globalsSkipped _ => false

end Stencil
