import Stencil.Data.Lookup
import Stencil.Data.Display
import Stencil.Text.Entity
import Stencil.Settings

/-!
# Rendering

Rendering walks over a template with a scope. Text is copied; a name shows the value that it stands for,
unless that is empty; a block is rendered or not by the value of its name, an iterated block once for
each element with the element as scope. What is missing or of the wrong kind shows as nothing.

A partial is source text that is parsed when it is met and rendered in its place. Partials can contain
themselves, so the number of partials around each other is limited: `renderWithin` recurses on the
number of further levels that are allowed, and inside one level rendering is structural recursion on the
template (`renderParts`).

Nesting also needs stack. A `Stack` is the number of frames left, or `none` for a stack without end.
Where it runs out rendering ends in a fault. A partial that stands in no other contains such a fault: it
shows as nothing, and the event says so.
-/

namespace Stencil

/-- What stays the same throughout a rendering: the data, the settings, and where partials come from. -/
structure Setting where
  graph : Graph
  settings : Settings
  partials : Scope

/-- The number of frames left, `none` if there is no limit. -/
abbrev Stack := Option Nat

namespace Stack

/-- The stack of an ordinary rendering. -/
def ordinary : Stack := some 1000

/-- The frames that the body of an inverted block takes. -/
def invertedFrames : Nat := 1

/-- The frames that the body of a plain block takes. -/
def plainFrames : Nat := 2

/-- The frames that the body of a plain block takes when it is rendered for each element. -/
def iteratedFrames : Nat := 3

/-- The frames that a partial takes. -/
def partialFrames : Nat := 2

/-- The stack inside a nested rendering that takes some frames. -/
def enter (s : Stack) (frames : Nat) : Run Stack :=
  match s with
  | none => return none
  | some n => if frames ≤ n then return some (n - frames) else Run.fail .stackExhausted

/-- Whether a stack has fewer frames left than are asked for. -/
def Short (s : Stack) (frames : Nat) : Prop := ∃ n, s = some n ∧ n < frames

end Stack

namespace Graph

/-- The map that partials come from: a scope of its own making, or a value that is a mapping. Objects
with fields are no source of partials. -/
def partialsView? (g : Graph) (m : Memory) : Scope → Option MapView
  | .value v => g.mapping? m v
  | scope => some (g.scopeView m scope)

/-- The text of a value on its own. -/
def show? (g : Graph) (v : Value) : Run String := do Run.ofExcept (g.display (← Run.memory) v)

/-- The text of what a name stands for, or nothing if that is empty. -/
def interpolate (g : Graph) (scope : Scope) (name : String) : Run String := do
  let v ← g.lookup scope name
  if ← g.empty? v then return "" else g.show? v

/-- The scope of an element: the element itself if it is map-like, else the element as an item. -/
def elementScope (g : Graph) (v : Value) : Run Scope := do
  match ← Run.ofExcept (g.mapLike? (← Run.memory) v) with
  | some _ => return .value v
  | none => return .item v

/-- The scope inside a plain block whose name stands for a value that is neither empty nor a sequence:
the value itself if it is map-like, else the scope around the block. -/
def blockScope (g : Graph) (scope : Scope) (v : Value) : Run Scope := do
  match ← Run.ofExcept (g.mapLike? (← Run.memory) v) with
  | some _ => return .value v
  | none => return scope

/-- The texts of the elements one after the other, each of them made inside the iteration. -/
def concatMap (f : Value → Run String) : List Value → Run String
  | [] => return ""
  | v :: vs => do
    let s ← Run.insideIteration (f v)
    let rest ← concatMap f vs
    return s ++ rest

/-- A plain block, given how its body is rendered. -/
def renderPlain (g : Graph) (scope : Scope) (stack : Stack) (name : String)
    (body : Scope → Stack → Run String) : Run String := do
  let v ← g.lookup scope name
  if ← g.empty? v then return ""
  match g.elements? v with
  | some xs =>
    concatMap (fun x => do
      let inner ← g.elementScope x
      body inner (← stack.enter Stack.iteratedFrames)) xs.toList
  | none =>
    let inner ← g.blockScope scope v
    body inner (← stack.enter Stack.plainFrames)

/-- An inverted block, given how its body is rendered. -/
def renderInverted (g : Graph) (scope : Scope) (stack : Stack) (name : String)
    (body : Scope → Stack → Run String) : Run String := do
  let v ← g.lookup scope name
  if ← g.empty? v then body scope (← stack.enter Stack.invertedFrames) else return ""

end Graph

/-- A leaf, given how partials are rendered. -/
def renderLeaf (g : Graph) (inclusion : String → Scope → Stack → Run String) (l : Leaf) (scope : Scope)
    (stack : Stack) : Run String :=
  match l with
  | .text s => return s
  | .name n => return Text.escape (← g.interpolate scope n)
  | .raw n => g.interpolate scope n
  | .inclusion n => inclusion n scope stack

/-- A block, given how its body is rendered. -/
def renderBlock (g : Graph) (kind : BlockKind) (name : String) (body : Scope → Stack → Run String)
    (scope : Scope) (stack : Stack) : Run String :=
  match kind with
  | .plain => g.renderPlain scope stack name body
  | .inverted => g.renderInverted scope stack name body

/-- A template, given how the partials in it are rendered. -/
def renderParts (g : Graph) (inclusion : String → Scope → Stack → Run String) :
    Template → Scope → Stack → Run String
  | .nil, _, _ => return ""
  | .leaf l rest, scope, stack => do
    let s ← renderLeaf g inclusion l scope stack
    let tail ← renderParts g inclusion rest scope stack
    return s ++ tail
  | .block kind name body rest, scope, stack => do
    let s ← renderBlock g kind name (renderParts g inclusion body) scope stack
    let tail ← renderParts g inclusion rest scope stack
    return s ++ tail

namespace Setting

/-- The source of a partial, if there is a usable one: the partials have to be a mapping, and the entry
a text that is not empty. -/
def source? (s : Setting) (name : String) : Run (Option String) := do
  let g := s.graph
  match g.partialsView? (← Run.memory) s.partials with
  | none => return none
  | some view =>
    let v ← g.get (.text name) view
    if ← Run.ofExcept (g.truth (← Run.memory) v) then
      match v with
      | .text source => return some source
      | _ => return none
    else return none

/-- Report an event if debug events are asked for. -/
def debug (s : Setting) (e : Event) : Run Unit := if s.settings.debug then Run.report e else return

/-- Read the source of a partial that is the `depth`-th around each other, and render the template with
`body`. A partial whose blocks do not nest shows as nothing. -/
def expand (s : Setting) (name source : String) (depth : Nat) (body : Template → Run String) :
    Run String :=
  match Template.parse source with
  | .error cause => do
    Run.report (.malformed name cause)
    return ""
  | .ok t => do
    s.debug (.parsed source.length t.length)
    s.debug (.expanding name depth)
    body t

/-- A template inside partials, where `left` further ones may be rendered inside each other. -/
def renderWithin (s : Setting) : (left : Nat) → Template → Scope → Stack → Run String
  | 0 => renderParts s.graph fun name _ _ => do
    match ← s.source? name with
    | none => return ""
    | some _ =>
      Run.report (.limitReached name s.settings.limit)
      return ""
  | left + 1 => renderParts s.graph fun name scope stack => do
    match ← s.source? name with
    | none => return ""
    | some source =>
      s.expand name source (s.settings.limit - left) fun t => do
        renderWithin s left t scope (← stack.enter Stack.partialFrames)

end Setting

/-- A partial that stands in no other: running out of stack inside it is reported, and the partial then
shows as nothing. -/
def containOverflow (name : String) (run : Run String) : Run String :=
  tryCatch run fun f =>
    if f.kind = .recursion then do
      Run.report (.stackExceeded name)
      return ""
    else Run.fail f

namespace Setting

/-- Render a template. -/
def render (s : Setting) (t : Template) (scope : Scope) (stack : Stack) : Run String :=
  renderParts s.graph (fun name scope stack => do
    match ← s.source? name with
    | none => return ""
    | some source =>
      s.expand name source 1 fun t =>
        containOverflow name do
          s.renderWithin (s.settings.limit - 1) t scope (← stack.enter Stack.partialFrames)) t scope stack

end Setting

end Stencil
