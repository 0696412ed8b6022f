import Mathlib.Data.List.Forall2
import Stencil.Holding
import Stencil.Tabulation

/-!
# Containers of other kinds

A list and a tuple with the same items are two kinds of the same thing, and so are a table and an object that has the
names of the table as fields. This file says when one value is another one with containers of other kinds in it, at any
places and depths (`Stencil.Graph.Interchangeable`): a sequence may be replaced by a sequence of another kind, and
something map-like by something map-like of another kind, if what they contain is the same up to such replacements. All
that is no container is left as it is.

Data may contain itself, so this is no recursion on values. Two values are interchangeable if there is a relation that
relates them, and that relates only containers whose contents it relates again (`Stencil.Graph.Swapped`).
-/

namespace Stencil

namespace Node

/-- The items of a sequence of any kind. -/
def items? : Node → Option (List Value)
  | .sequence _ xs => some xs
  | .range start stop step =>
    some ((List.range (Graph.rangeSize start stop step)).map fun (i : Nat) => .int (start + step * i))
  | _ => none

/-- The entries of something map-like of any kind but a chain. Those that it has gained are among them if it is a table
with a default, and all fields have to be set that the type of an object declares. -/
def entries? (gained : Entries) : Node → Option Entries
  | .table (.defaulting ..) es => some (es ++ gained)
  | .table _ es => some es
  | .struct _ fields => some (fields.map fun f => (.text f.1, f.2))
  | .model _ (some declared) attributes =>
    if declared.all fun name => (attributes.lookup name).isSome then some (setFields attributes declared.eraseDups)
    else none
  | _ => none

/-- Whether a node is a table of any kind, or a chain of tables. -/
def IsMapping : Node → Prop
  | .table .. => True
  | .chain _ => True
  | _ => False

/-- Whether a node is a sequence or something map-like. -/
def IsContainer : Node → Prop
  | .sequence .. => True
  | .range .. => True
  | .table .. => True
  | .chain _ => True
  | .struct .. => True
  | .model _ (some _) _ => True
  | _ => False

end Node

namespace Graph

/-- Whether a value is a table of any kind, or a chain of tables. -/
def IsMapping (g : Graph) (v : Value) : Prop := ∃ n, g.node? v = some n ∧ n.IsMapping

/-- Whether a value is a sequence or something map-like. -/
def IsContainer (g : Graph) (v : Value) : Prop := ∃ n, g.node? v = some n ∧ n.IsContainer

/-- Whether tables have the same names with related values, in whatever order, and both have entries if one has. -/
structure SameNames (g : Graph) (A : Value → Value → Prop) (es es' : Entries) : Prop where
  find? (name : String) : Option.Rel A (g.find? (.text name) es) (g.find? (.text name) es')
  isEmpty_eq : es.isEmpty = es'.isEmpty

/-- **Whether two values are the same or containers of whatever kinds with related contents.** An object in which a
declared field is not set is replaced only by another one of its type. A set is another one only where something in it,
at whatever depth, is a container that may have been replaced. -/
inductive Swapped (g : Graph) (m : Memory) (A : Value → Value → Prop) : Value → Value → Prop
  | same (v : Value) : Swapped g m A v v
  | sequence {v w : Value} {n n' : Node} {xs ys : List Value} : g.node? v = some n → g.node? w = some n' →
    n.items? = some xs → n'.items? = some ys → List.Forall₂ A xs ys → Swapped g m A v w
  | table {i j : Nat} {n n' : Node} {es es' : Entries} : g.nodes[i]? = some n → g.nodes[j]? = some n' →
    n.entries? (m.gained i) = some es → n'.entries? (m.gained j) = some es' → g.SameNames A es es' →
    Swapped g m A (.ref i) (.ref j)
  | model {v w : Value} {type : String} {declared : List String} {attributes attributes' : List (String × Value)} :
    g.node? v = some (.model type (some declared) attributes) →
    g.node? w = some (.model type (some declared) attributes') →
    List.Forall₂ (fun f f' => f.1 = f'.1 ∧ A f.2 f'.2) attributes attributes' → Swapped g m A v w
  | chain {v w : Value} {vs ws : List Value} : g.node? v = some (.chain vs) → g.node? w = some (.chain ws) →
    (∀ x ∈ vs ++ ws, g.IsMapping x) → List.Forall₂ A vs ws → Swapped g m A v w
  | set {v w x : Value} {frozen : Bool} {xs ys : List Value} : g.node? v = some (.set frozen xs) →
    g.node? w = some (.set frozen ys) → g.Holds m v x → g.IsContainer x →
    (∀ x ∈ xs, ∃ y ∈ ys, A x y) → (∀ y ∈ ys, ∃ x ∈ xs, A x y) → Swapped g m A v w

/-- **Whether one value is another one with containers of other kinds in it.** -/
def Interchangeable (g : Graph) (m : Memory) (v w : Value) : Prop :=
  ∃ A : Value → Value → Prop, (∀ v w, A v w → g.Swapped m A v w) ∧ A v w

end Graph

end Stencil
