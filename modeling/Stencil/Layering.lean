import Stencil.Environment

/-!
# Globals behind a context, and one table instead

An environment places its globals behind a mapping that is given as the context, and makes no table of the two. This
file says which table the two amount to (`Stencil.Environment.Flattens`), and which table the partials of an
environment amount to together with those of a call (`Stencil.Environment.Overrides`): the one that is filled from the
environment first and then updated from what the call gives, before anything is rendered.

The two differ where a mapping has defaults (`Stencil.Graph.defaults`): a table with a default answers every key, and
so hides what lies behind it.
-/

namespace Stencil

/-- The value under a key of a map, from the first of its tables that has the key. Defaults do not count. -/
def MapView.value? (g : Graph) (key : Value) : MapView → Option Value
  | single es => g.find? key es
  | layered ls => ls.findSome? fun l => g.find? key l.entries

namespace Graph

/-- Whether no key stands twice in entries. -/
def Distinct (g : Graph) (es : Entries) : Prop := es.Pairwise fun e e' => g.sameKey e.1 e'.1 = false

instance (g : Graph) (es : Entries) : Decidable (g.Distinct es) := inferInstanceAs (Decidable (es.Pairwise _))

/-- Whether no table holds a key twice, what it has gained included. -/
def Orderly (g : Graph) (m : Memory) : Prop :=
  ∀ (place : Nat) (kind : TableKind) (es : Entries), g.nodes[place]? = some (.table kind es) →
    g.Distinct (es ++ m.gained place)

/-- The value that a mapping has under a name, if it has the name as a key. -/
def entry? (g : Graph) (m : Memory) (v : Value) (name : String) : Option Value := do
  (← g.mapping? m v).value? g (.text name)

/-- The defaults of the tables that a table or a chain consists of, the front one first, each with the place of its
table. -/
def defaults (g : Graph) (v : Value) : List (Nat × Value) :=
  (g.layers .fresh (g.nodes.size + 1) v).filterMap Layer.fallback

end Graph

namespace Environment

/-- **Whether a value is what a context and the globals behind it amount to**: without globals the context itself,
without a context the table of the globals, and else the table of the globals updated from the context. -/
inductive Flattens (g : Graph) (e : Environment) (σ : RunState) : Value → Value → Prop
  | context {context : Value} : e.globals = [] → Flattens g e σ context context
  | globals {flat : Value} : g.node? flat = some (.table .plain e.globals) → Flattens g e σ .null flat
  | both {context flat : Value} {view : MapView} {es : Entries} : e.globals ≠ [] →
    g.mapping? σ.memory context = some view → ((g.mergeOver e.globals context).runFrom σ).1 = .ok es →
    g.node? flat = some (.table .plain es) → Flattens g e σ context flat

/-- **Whether a value is the table of the partials of the environment, updated from those of a call** if these are a
mapping. Updating it may make tables with a default gain entries, which takes the state `σ` to `σ'`. -/
inductive Overrides (g : Graph) (e : Environment) (σ : RunState) : Value → Value → RunState → Prop
  | alone {partials flat : Value} : g.mapping? σ.memory partials = none →
    g.node? flat = some (.table .plain e.partials) → Overrides g e σ partials flat σ
  | updated {partials flat : Value} {view : MapView} {es : Entries} {σ' : RunState} :
    g.mapping? σ.memory partials = some view → (g.mergeOver e.partials partials).runFrom σ = (.ok es, σ') →
    g.node? flat = some (.table .plain es) → Overrides g e σ partials flat σ'

end Environment

end Stencil
