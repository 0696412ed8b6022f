import Stencil.Holding
import Stencil.Stage

/-!
# Objects in place of tables

An object whose type declares fields can be looked at by the names of these fields, like a table. This file puts
tables in the place of such objects (`Stencil.Graph.asTables`): each has the fields that are declared and set, under
their names, in the order of their declaration.

The two are not the same where an object is a mapping of another kind than what is looked up in. A chain consists of
mappings, and partials come from one, and an object with fields is none. `Stencil.Setting.Tabulates` says that an
object is used as data only.
-/

namespace Stencil

/-- The attributes that have one of some names, in the order of the names. -/
def setFields (attributes : List (String × Value)) (names : List String) : Entries :=
  names.filterMap fun name => (attributes.lookup name).map fun v => (.text name, v)

/-- The table of the fields that are declared and set. -/
def Node.asTable : Node → Node
  | .model _ (some declared) attributes => .table .plain (setFields attributes declared.eraseDups)
  | n => n

theorem Node.asTable_cases (n : Node) : n.asTable = n ∨ ∃ es, n.asTable = .table .plain es := by
  unfold asTable
  split
  · exact .inr ⟨_, rfl⟩
  · exact .inl rfl

/-- A default that is kept is kept among other nodes too, if the empty list and the empty table stay where they are. -/
theorem Node.KeepsDefault.of_stay {nodes nodes' : Array Node} {n : Node}
    (hstay : ∀ (v : Value) (empty : Node), empty = .sequence .list [] ∨ empty = .table .plain [] →
      v.nodeIn? nodes = some empty → v.nodeIn? nodes' = some empty) (h : n.KeepsDefault nodes) :
    n.KeepsDefault nodes' := by
  rcases n with _ | _ | ⟨_ | _ | _ | _ | ⟨factory, fresh⟩, es⟩
  case table.defaulting =>
    cases factory with
    | int => exact h
    | text => exact h
    | list => exact hstay fresh _ (.inl rfl) h
    | table => exact hstay fresh _ (.inr rfl) h
  all_goals trivial

namespace Graph

/-- The nodes with tables in the place of the objects at some places. -/
def tabulated (g : Graph) (places : Nat → Bool) : Array Node :=
  g.nodes.mapIdx fun place n => if places place then n.asTable else n

theorem getElem?_tabulated (g : Graph) (places : Nat → Bool) (place : Nat) :
    (g.tabulated places)[place]? = (g.nodes[place]?).map fun n => if places place then n.asTable else n :=
  Array.getElem?_mapIdx

/-- **The graph with tables in the place of the objects at some places.** -/
def asTables (g : Graph) (places : Nat → Bool) : Graph where
  nodes := g.tabulated places
  keepsDefaults n hn := by
    obtain ⟨place, hplace⟩ := Array.mem_iff_getElem?.mp (Array.mem_toList_iff.mp hn)
    rw [getElem?_tabulated] at hplace
    obtain ⟨n', hnode, rfl⟩ := Option.map_eq_some_iff.mp hplace
    have hkept : n'.KeepsDefault (g.tabulated places) := by
      -- What the factories make are no objects, and so stay as they are.
      refine Node.KeepsDefault.of_stay ?_ (g.keepsDefaults n' (Array.mem_toList_iff.mpr (Array.mem_of_getElem? hnode)))
      rintro (_ | _ | _ | _ | _ | _ | _ | i) empty hempty hv
      case ref =>
        have hi : g.nodes[i]? = some empty := hv
        have hsame : empty.asTable = empty := by rcases hempty with rfl | rfl <;> rfl
        refine (g.getElem?_tabulated places i).trans ?_
        rw [hi, Option.map_some, hsame, ite_self]
      all_goals cases hv
    split
    · rcases n'.asTable_cases with hsame | ⟨es, htable⟩
      · exact hsame.symm ▸ hkept
      · exact htable.symm ▸ trivial
    · exact hkept

end Graph

/-- Whether a value refers to none of some places. -/
def Value.Avoids (places : Nat → Bool) (v : Value) : Prop := ∀ place, places place → v ≠ .ref place

/-- Whether none of some places is that of a mapping in front of the globals. -/
def Scope.Avoids (places : Nat → Bool) : Scope → Prop
  | .value _ => True
  | .record _ => True
  | .layered v _ => v.Avoids places

/-- **Whether there are objects with declared fields at some places**, which are no layers of a chain. -/
structure Graph.Declares (g : Graph) (places : Nat → Bool) : Prop where
  model {place : Nat} : places place →
    ∃ type declared attributes, g.nodes[place]? = some (.model type (some declared) attributes)
  chain {place : Nat} {vs : List Value} : g.nodes[place]? = some (.chain vs) → ∀ v ∈ vs, v.Avoids places

/-- **Whether objects with declared fields are used as data only**: they are no layers of a chain, they are not put in
front of the globals, and partials do not come from them. -/
structure Setting.Tabulates (s : Setting) (places : Nat → Bool) (scope : Scope) : Prop where
  data : s.graph.Declares places
  scope : scope.Avoids places
  partials : s.partials.Avoids places
  mapping {v : Value} : s.partials = .value v → v.Avoids places

/-- Whether a fault is that of a field that an object at one of some places declares and that is not set. -/
def Graph.Lacks (g : Graph) (places : Nat → Bool) (f : Fault) : Prop :=
  ∃ place type declared attributes name, places place ∧
    g.nodes[place]? = some (.model type (some declared) attributes) ∧ name ∈ declared ∧
    attributes.lookup name = none ∧ f = .noAttribute type name

end Stencil
