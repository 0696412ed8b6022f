import Mathlib.Logic.Relation
import Stencil.Visit

/-!
# The stages of a rendering

A rendering goes through stages: before each part of a template there is one, and so there is before each element of a
sequence that a block is rendered for. A `Stencil.Stage` holds what is to be done there and all that this depends on,
so that it can be carried out by itself (`Stencil.Setting.carryOut`).

What is done at a stage itself is to ask one question (`Stencil.Setting.question`): what a name stands for, what the
source of a partial is, in which scope an element is rendered, or whether there is enough stack. The answer is a text,
or what has to be done inside the part that comes first: in the body of a block, or in the template behind a partial.
If that ends in a text, the rendering goes on behind the part. The stages that are passed (`Stencil.Setting.Passes`)
are those that are reached in this way.
-/

namespace Stencil

/-- What is to be done at a stage. -/
inductive Task
  /-- Render a template. -/
  | template (t : Template)
  /-- Take frames from the stack, and render a template with what is left of it. -/
  | body (frames : Nat) (t : Template)
  /-- Render a template for each of some values. -/
  | elements (t : Template) (vs : List Value)

/-- What is to be done after the part that comes first. -/
def Task.rest? : Task → Option Task
  | .template .nil => none
  | .template (.leaf _ rest) => some (.template rest)
  | .template (.block _ _ _ rest) => some (.template rest)
  | .body _ _ => none
  | .elements _ [] => none
  | .elements t (_ :: vs) => some (.elements t vs)

/-- A task, and the number of partials around it, the scope and the stack that it is done with. -/
structure Job where
  depth : Nat
  task : Task
  scope : Scope
  stack : Stack

/-- A point of a rendering: what is to be done, and the state that is found. -/
structure Stage extends Job where
  state : RunState

/-- What the question of a stage is answered by. -/
inductive Stage.Answer
  /-- The part that comes first shows a text. -/
  | shows (text : String)
  /-- The part that comes first shows what is shown by something else inside it. -/
  | enters (inner : Job)

/-- Whether the part that comes first is the partial with a name. -/
def Job.Includes (j : Job) (name : String) : Prop := ∃ rest, j.task = .template (.leaf (.inclusion name) rest)

/-- Whether the part that comes first is an element that a block is rendered for. -/
def Job.Iterates (j : Job) : Prop := ∃ t vs, j.task = .elements t vs

/-- What is made of what is done inside the part that comes first: a partial that stands in no other contains an
overflow of the stack, and what is done for an element is done inside the iteration. -/
def Job.contain (j : Job) (run : Run String) : Run String :=
  match j.depth, j.task with
  | 0, .template (.leaf (.inclusion name) _) => containOverflow name run
  | _, .elements _ _ => Run.insideIteration run
  | _, _ => run

namespace Setting

/-! ### Carrying out a stage -/

/-- How a partial is rendered that stands in a template with `depth` partials around it. -/
def inclusionAt (s : Setting) : (depth : Nat) → String → Scope → Stack → Run String
  | 0 => s.outermost
  | depth + 1 => s.inclusionWithin (s.settings.limit - (depth + 1))

/-- A template with `depth` partials around it. -/
def templateAt (s : Setting) (depth : Nat) (t : Template) (scope : Scope) (stack : Stack) : Run String :=
  renderParts s.graph (s.inclusionAt depth) t scope stack

/-- A template that takes frames from the stack first. -/
def bodyAt (s : Setting) (depth frames : Nat) (t : Template) (scope : Scope) (stack : Stack) : Run String := do
  s.templateAt depth t scope (← stack.enter frames)

/-- A template that is rendered for an element of a sequence. -/
def elementAt (s : Setting) (depth : Nat) (t : Template) (stack : Stack) (v : Value) : Run String := do
  s.bodyAt depth Stack.iteratedFrames t (← s.graph.elementScope v) stack

/-- All that is to be done from a stage on. -/
def carryOut (s : Setting) (j : Job) : Run String :=
  match j.task with
  | .template t => s.templateAt j.depth t j.scope j.stack
  | .body frames t => s.bodyAt j.depth frames t j.scope j.stack
  | .elements t vs => Graph.concatMap (s.elementAt j.depth t j.stack) vs

/-- What a stage ends in, and the state that it leaves behind. -/
def outcome (s : Setting) (a : Stage) : Except Fault String × RunState := (s.carryOut a.toJob).runFrom a.state

/-- The part that comes first. -/
def part (s : Setting) (j : Job) : Run String :=
  match j.task with
  | .template .nil => return ""
  | .template (.leaf l _) => renderLeaf s.graph (s.inclusionAt j.depth) l j.scope j.stack
  | .template (.block kind name body _) => renderBlock s.graph kind name (s.templateAt j.depth body) j.scope j.stack
  | .body frames t => s.bodyAt j.depth frames t j.scope j.stack
  | .elements _ [] => return ""
  | .elements t (v :: _) => Run.insideIteration (s.elementAt j.depth t j.stack v)

/-! ### Questions -/

/-- What comes of the source of a partial with `depth` others around it: the template behind the partial, if there is
source that can be read, and room for it. -/
def questionSource (s : Setting) (depth : Nat) (name : String) (scope : Scope) (stack : Stack) :
    Option String → Run Stage.Answer
  | none => return .shows ""
  | some source =>
    if depth < s.settings.limit then
      match Template.parse source with
      | .error cause => do
        Run.report (.malformed name cause)
        return .shows ""
      | .ok t => do
        s.debug (.parsed source.length t.length)
        s.debug (.expanding name (depth + 1))
        return .enters ⟨depth + 1, .body Stack.partialFrames t, scope, stack⟩
    else do
      Run.report (.limitReached name s.settings.limit)
      return .shows ""

/-- What comes of a partial. -/
def questionPartial (s : Setting) (depth : Nat) (name : String) (scope : Scope) (stack : Stack) : Run Stage.Answer := do
  s.questionSource depth name scope stack (← s.source? name)

/-- What comes of a block: its body, for the elements of a sequence or once, if it is rendered. -/
def questionBlock (s : Setting) (kind : BlockKind) (depth : Nat) (name : String) (body : Template) (scope : Scope)
    (stack : Stack) : Run Stage.Answer := do
  let v ← s.graph.lookup scope name
  match kind, ← s.graph.empty? v with
  | .plain, true => return .shows ""
  | .plain, false =>
    match s.graph.elements? v with
    | some xs => return .enters ⟨depth, .elements body xs.toList, scope, stack⟩
    | none => return .enters ⟨depth, .body Stack.plainFrames body, ← s.graph.blockScope scope v, stack⟩
  | .inverted, true => return .enters ⟨depth, .body Stack.invertedFrames body, scope, stack⟩
  | .inverted, false => return .shows ""

/-- **What is asked at a stage** before anything is done inside the part that comes first. -/
def question (s : Setting) (j : Job) : Run Stage.Answer :=
  match j.task with
  | .template .nil => return .shows ""
  | .template (.leaf (.text shown) _) => return .shows shown
  | .template (.leaf (.name n) _) => return .shows (Text.escape (← s.graph.interpolate j.scope n))
  | .template (.leaf (.raw n) _) => return .shows (← s.graph.interpolate j.scope n)
  | .template (.leaf (.inclusion n) _) => s.questionPartial j.depth n j.scope j.stack
  | .template (.block kind n body _) => s.questionBlock kind j.depth n body j.scope j.stack
  | .body frames t => return .enters ⟨j.depth, .template t, j.scope, ← j.stack.enter frames⟩
  | .elements _ [] => return .shows ""
  | .elements t (v :: _) =>
    return .enters ⟨j.depth, .body Stack.iteratedFrames t, ← s.graph.elementScope v, j.stack⟩

/-- What the question of a stage is answered by, and the state that it leaves behind. -/
def answer (s : Setting) (a : Stage) : Except Fault Stage.Answer × RunState := (s.question a.toJob).runFrom a.state

/-- What is made of the answer to a question. -/
def follow (s : Setting) (j : Job) : Stage.Answer → Run String
  | .shows text => return text
  | .enters inner => j.contain (s.carryOut inner)

/-! ### From stage to stage -/

/-- Whether a stage enters another one, which is inside the part that comes first. -/
def Enters (s : Setting) (a b : Stage) : Prop := s.answer a = (.ok (.enters b.toJob), b.state)

/-- Whether a stage leads to another one, which is inside the part that comes first or follows that part. -/
inductive Leads (s : Setting) (a : Stage) : Stage → Prop
  | into {b : Stage} : s.Enters a b → Leads s a b
  | past {task : Task} {shown : String} {τ : RunState} : a.task.rest? = some task →
    (s.part a.toJob).runFrom a.state = (.ok shown, τ) → Leads s a { a with task, state := τ }

/-- **The stages that are passed from a stage on**, itself included. -/
abbrev Passes (s : Setting) : Stage → Stage → Prop := Relation.ReflTransGen s.Leads

/-- The stage that a rendering begins with. -/
def start (t : Template) (scope : Scope) (stack : Stack) (σ : RunState) : Stage := ⟨⟨0, .template t, scope, stack⟩, σ⟩

/-! ### What happens at a stage -/

/-- Whether the callable at a place is called at a stage. -/
def Calls (s : Setting) (a : Stage) (place : Nat) : Prop :=
  a.state.memory.calls place < (s.answer a).2.memory.calls place

/-- Whether a fault arises at a stage. -/
def Arises (s : Setting) (a : Stage) (f : Fault) : Prop := (s.answer a).1 = .error f

/-- **Whether a stage is passed inside an element that a block is rendered for**, at whatever depth of blocks and of
partials in it. -/
inductive InElement (s : Setting) (a b : Stage) : Prop
  | intro {outer inner : Stage} : s.Passes a outer → outer.Iterates → s.Enters outer inner → s.Passes inner b →
    InElement s a b

/-- Which fault the one is that comes out at a stage `a`, if `f` arises at a stage `b` that is passed from there. -/
structure Becomes (s : Setting) (a b : Stage) (f f' : Fault) : Prop where
  inElement : s.InElement a b → f' = f.outOfIteration
  elsewhere : ¬s.InElement a b → f' = f

/-- **Whether a partial that stands in no other is given up with a stage in it**: the partial comes first at a stage
that is passed, and shows nothing, and what it reports last is that it has exceeded the stack. -/
inductive GivenUpAround (s : Setting) (a b : Stage) : Prop
  | intro {outer inner : Stage} {name : String} {τ : RunState} : s.Passes a outer → outer.depth = 0 →
    outer.Includes name → s.Enters outer inner → s.Passes inner b →
    (s.outermost name outer.scope outer.stack).runFrom outer.state =
      (.ok "", { τ with events := τ.events.push (.stackExceeded name) }) → GivenUpAround s a b

/-- Whether a value is shown at a stage: the name that comes first stands for it, and it is not empty. The memory is the
one that it is shown with. -/
inductive Shows (s : Setting) (a : Stage) (v : Value) : Memory → Prop
  | intro {l : Leaf} {name : String} {rest : Template} {τ : RunState} : a.task = .template (.leaf l rest) →
    l = .name name ∨ l = .raw name → (s.graph.lookup a.scope name).runFrom a.state = (.ok v, τ) →
    s.graph.isEmpty τ.memory v = .ok false → Shows s a v τ.memory

end Setting

end Stencil
