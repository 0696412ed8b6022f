import Stencil.Data.Display

/-!
# The values that a value holds

The text of an object shows what the object contains, and what that contains in turn. This file says which values
these are (`Stencil.Graph.Holds`), and to how many levels they are inside each other (`Stencil.Graph.NestsWithin`).

Plain data (`Stencil.Graph.IsPlain`) consists of nothing but `null`, truth values, integers, floating point numbers,
texts, lists, tuples, and tables whose keys are texts. It may contain itself.
-/

namespace Stencil

/-- The values that the text of an object shows, where the object has gained some entries. -/
def Node.contents (gained : Entries) : Node → List Value
  | .sequence _ xs => xs
  | .table (.defaulting ..) es => (es ++ gained).flatMap fun e => [e.1, e.2]
  | .table _ es => es.flatMap fun e => [e.1, e.2]
  | .chain vs => vs
  | .struct _ fields => fields.map Prod.snd
  | .set _ xs => xs
  | .range .. => []
  | .structType .. => []
  | .model .. => []
  | .buffer _ => []
  | .object .. => []
  | .callable .. => []

/-- Whether an object is a list or a tuple whose elements can be counted, or a table whose keys are texts. -/
def Node.IsPlain : Node → Prop
  | .sequence .list xs => xs.length < Graph.sizeLimit
  | .sequence .tuple xs => xs.length < Graph.sizeLimit
  | .table .plain es => ∀ e ∈ es, ∃ key, e.1 = .text key
  | _ => False

namespace Graph

/-- **Whether a value holds another one**: it is that one, or something that it holds contains it. -/
inductive Holds (g : Graph) (m : Memory) (v : Value) : Value → Prop
  | itself : Holds g m v v
  | within {place : Nat} {n : Node} {w : Value} : Holds g m v (.ref place) → g.nodes[place]? = some n →
    w ∈ n.contents (m.gained place) → Holds g m v w

variable {g : Graph} {m : Memory} {v w : Value}

/-- What is held by what a value holds is held by that value. -/
theorem Holds.trans {u : Value} (h : g.Holds m v w) (h' : g.Holds m w u) : g.Holds m v u := by
  induction h' with
  | itself => exact h
  | within _ hnode hmem ih => exact ih.within hnode hmem

theorem Holds.contents {place : Nat} {n : Node} (hnode : g.nodes[place]? = some n)
    (hmem : w ∈ n.contents (m.gained place)) : g.Holds m (.ref place) w := .within .itself hnode hmem

/-- A scalar holds nothing but itself. -/
theorem Holds.eq_of_scalar (h : g.Holds m v w) (hv : ∀ place, v ≠ .ref place) : w = v := by
  induction h with
  | itself => rfl
  | within _ _ _ ih => exact absurd ih.symm (hv _)

/-- Whether a value is shown within some levels, where the places in `around` are those of the objects that contain
it. An object inside itself is shown by an ellipsis. -/
def NestsWithin (g : Graph) : (depth : Nat) → (around : List Nat) → Value → Prop
  | 0, _, _ => False
  | depth + 1, around, .ref place =>
    place ∈ around ∨
      ∀ n, g.nodes[place]? = some n → ∀ w ∈ n.contents [], g.NestsWithin depth (place :: around) w
  | _ + 1, _, _ => True

/-- Whether a value is a scalar with a text of its own, or a plain object. -/
def IsPlainValue (g : Graph) : Value → Prop
  | .null => True
  | .bool _ => True
  | .int _ => True
  | .float _ => True
  | .decimal _ => False
  | .text _ => True
  | .bytes _ => False
  | .ref place => ∃ n, g.nodes[place]? = some n ∧ n.IsPlain

/-- **Whether a value is plain data**: all that it holds is plain, and is shown within the levels that there are. Plain
objects gain no entries, so that it does not matter in which memory they are seen. -/
structure IsPlain (g : Graph) (v : Value) : Prop where
  plain {w : Value} : g.Holds .fresh v w → g.IsPlainValue w
  nests {w : Value} : g.Holds .fresh v w → g.NestsWithin displayDepth [] w

end Graph

end Stencil
