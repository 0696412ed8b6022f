import Stencil.Inlining
import Stencil.Layering

/-!
# Partials that agree

Partials come from a mapping, and one mapping may hold many more than a template needs. This file says what two mappings
have to have in common so that a template cannot tell them apart: entries that are taken for the same
(`Stencil.Graph.taken`) under the names that are reachable from the template.

What a mapping has under a name may change while a template is rendered. Asking for a partial may itself change it, in a
chain of tables with a default in front (`Stencil.Setting.IsInert` excludes that). Names that are looked up in the data
may change it too, if a table of the partials is part of the data. Then an entry comes up that is the default of its
table. Such an entry is no source, as defaults are what the factory of the table makes (`Stencil.Factory.Makes`).
-/

namespace Stencil

/-- What an entry of the partials is taken for: a source or none, or the fault of testing it for its truth. -/
def Graph.taken (g : Graph) (m : Memory) (v : Value) : Except Fault (Option String) :=
  (g.truth m v).map fun _ => v.source?

namespace Setting

/-- The entry of the partials under a name. -/
def given? (s : Setting) (m : Memory) (name : String) : Option Value := do
  (← s.graph.partialsView? m s.partials).value? s.graph (.text name)

/-- The sources that the entries of the partials are. -/
def sources (s : Setting) (m : Memory) : Sources := fun name => (s.given? m name).bind Value.source?

/-- Whether asking for a partial has no effect, in any memory that may come up. -/
def IsInert (s : Setting) (m : Memory) (name : String) : Prop :=
  ∀ σ, s.graph.Evolves m σ.memory → ((s.source? name).runFrom σ).2 = σ

/-- Whether two settings have entries under a name that are taken for the same, or both have none. -/
def AgreesOn (s s' : Setting) (m : Memory) (name : String) : Prop :=
  (s.given? m name).map (s.graph.taken m) = (s'.given? m name).map (s'.graph.taken m)

end Setting

end Stencil
