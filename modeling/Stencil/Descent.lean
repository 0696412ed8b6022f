import Stencil.Safety

/-!
# Descending along a path, by dots and by blocks

A path of names can be followed in two ways. The names can be written with dots between them, and then resolving the
one long name follows the path (`Stencil.dotted`). Or each name can open a block inside that of the name before, and
then the blocks change the scope step by step (`Stencil.Template.within`).

The two ways are comparable where each name stands for something that a block enters, or for something empty, where
both ways end (`Stencil.Graph.Descends`). A block calls what its name stands for and repeats its body for each element,
and a dot does neither.
-/

namespace Stencil

/-! ### Names with dots between them -/

/-- Whether the first character of a name is a dot. Such a name is no path. -/
def BeginsWithDot (name : String) : Prop := name.toList.head? = some '.'

instance (name : String) : Decidable (BeginsWithDot name) := inferInstanceAs (Decidable (_ = _))

/-- Names in front of a last one, with dots between them. -/
def dotted (names : List String) (last : String) : String := names.foldr (fun name rest => name ++ "." ++ rest) last

/-! ### Blocks in each other -/

/-- Whether a leaf shows the value of a name, with or without escaping. -/
def IsInterpolation (leaf : String → Leaf) : Prop := leaf = .name ∨ leaf = .raw

/-- A template inside a block of the last of some names, that inside a block of the name before, and so on. -/
def Template.within (names : List String) (t : Template) : Template :=
  names.foldr (fun name body => .block .plain name body .nil) t

namespace Graph

/-- **Whether names can be followed into blocks.** Each stands for something map-like, in which the next is then
resolved, up to one that stands for something empty, if there is one. What a name stands for is not called. -/
inductive Descends (g : Graph) : Scope → RunState → List String → Prop
  | done {scope : Scope} {σ : RunState} : Descends g scope σ []
  | ends {scope : Scope} {σ τ : RunState} {name : String} {names : List String} {v : Value} :
    (g.resolve scope name).runFrom σ = (.ok v, τ) → g.isEmpty τ.memory v = .ok true → Descends g scope σ (name :: names)
  | enters {scope : Scope} {σ τ : RunState} {name : String} {names : List String} {v : Value} {view : MapView} :
    (g.resolve scope name).runFrom σ = (.ok v, τ) → g.mapLike? τ.memory v = .ok (some view) →
    Descends g (.value v) τ names → Descends g scope σ (name :: names)

/-- Whether a scope is a sequence of which the elements cannot be counted. -/
def Uncountable (g : Graph) (scope : Scope) : Prop :=
  ∃ v xs, scope = .value v ∧ g.elements? v = some xs ∧ sizeLimit ≤ xs.size

/-- Whether testing a scope for its truth fails at most with a fault that counts as not being empty. -/
def Testable (g : Graph) (m : Memory) (scope : Scope) : Prop :=
  ∀ v f, scope = .value v → g.truth m v = .error f → f.kind = .type ∨ f.kind = .value

end Graph

end Stencil
