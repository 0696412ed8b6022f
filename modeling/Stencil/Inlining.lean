import Stencil.Template.Nesting
import Stencil.Render

/-!
# Partials put in their places

Where partials come from sources that do not change while a template is rendered, they can be put into the
template beforehand: each is replaced by the parts of the template that it stands for, whose partials are
replaced in turn, up to the limit of nesting (`Template.inline`). What results contains no partial.

`Reachable` says which names of partials matter to a template: those that it mentions, and those that the
templates behind them mention.
-/

namespace Stencil

/-- Sources of partials by name. -/
abbrev Sources := String → Option String

namespace Sources

/-- The template behind a name, if there is source that can be read. -/
def template? (sources : Sources) (name : String) : Option Template := do
  (Template.parse (← sources name)).toOption

end Sources

namespace Template

/-- The template with each partial replaced by the parts of another template. -/
def substitute (f : String → Template) : Template → Template
  | nil => nil
  | leaf (.inclusion n) r => f n ++ substitute f r
  | leaf (.text s) r => leaf (.text s) (substitute f r)
  | leaf (.name n) r => leaf (.name n) (substitute f r)
  | leaf (.raw n) r => leaf (.raw n) (substitute f r)
  | block k n b r => block k n (substitute f b) (substitute f r)

/-- The template with its partials put in their places, of which `levels` may be inside each other. A
partial without a template behind it, or inside too many others, is left out. -/
def inline (sources : Sources) : (levels : Nat) → Template → Template
  | 0, t => t.substitute fun _ => nil
  | levels + 1, t => t.substitute fun n =>
    match sources.template? n with
    | none => nil
    | some body => inline sources levels body

end Template

/-- The names of partials that a template mentions itself or through other partials. -/
inductive Reachable (sources : Sources) (t : Template) : String → Prop
  | mentioned {name : String} : name ∈ t.inclusions → Reachable sources t name
  | behind {outer name : String} {body : Template} : Reachable sources t outer →
    sources.template? outer = some body → name ∈ body.inclusions → Reachable sources t name

/-- The source that an entry of the partials is, if it is a text that is not empty. -/
def Value.source? : Value → Option String
  | .text s => if s = "" then none else some s
  | _ => none

/-- Whether the partials of a rendering that begins with a memory are the given sources: whenever one is asked for,
that has no effect and gives the source of that name. -/
def Setting.Serves (s : Setting) (m : Memory) (sources : Sources) : Prop :=
  ∀ (name : String) (state : RunState), s.graph.Evolves m state.memory →
    (s.source? name).runFrom state = (.ok (sources name), state)

end Stencil
