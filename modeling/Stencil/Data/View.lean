import Stencil.Data.Run
import Stencil.Data.Key

/-!
# Views of values

Templates look at values in three ways: as sequences, as maps from names to values, and as being empty
or not.

* `Graph.elements?` views lists, tuples, deques and ranges as their elements. Texts and bytes are not
  sequences.
* `Graph.mapping?` views tables and chains of tables as what they hold. `Graph.mapLike?` adds objects
  with declared fields; it fails if a declared field is not set.
* `Graph.isEmpty` asks a sequence for its length, a map for its keys, and any other value for its
  truth. A truth test that fails with a type or value fault counts as "not empty", and a sequence that
  is too long for its size to be counted is a fault.
-/

namespace Stencil

/-! ### Sequences -/

/-- The elements of a sequence: listed, or in arithmetic progression. -/
inductive Elements
  | listed (items : List Value)
  | progression (start step : Int) (size : Nat)
  deriving DecidableEq, Repr

namespace Elements

/-- The number of elements. -/
def size : Elements → Nat
  | listed xs => xs.length
  | progression _ _ n => n

/-- The element at a place, counted from zero. -/
def get? : Elements → Nat → Option Value
  | listed xs, i => xs[i]?
  | progression a d n, i => if i < n then some (.int (a + d * i)) else none

/-- All elements. -/
def toList : Elements → List Value
  | listed xs => xs
  | progression a d n => (List.range n).map fun (i : Nat) => .int (a + d * i)

/-- The element at an index, which counts from the end if it is negative. -/
def at? (xs : Elements) (i : Int) : Option Value :=
  let j := if i < 0 then i + xs.size else i
  if j < 0 then none else xs.get? j.toNat

end Elements

/-! ### Maps -/

/-- One table of a chain: what it holds, and for a table with a default its place and the value that it
gives to a key it lacks. -/
structure Layer where
  entries : Entries
  fallback : Option (Nat × Value)
  deriving DecidableEq, Repr

/-- A map from keys to values. -/
inductive MapView
  /-- The entries of one object. -/
  | single (entries : Entries)
  /-- The tables of a chain, the front one first. -/
  | layered (layers : List Layer)
  deriving DecidableEq, Repr

namespace MapView

/-- Whether the map has no keys. -/
def isEmpty : MapView → Bool
  | single es => es.isEmpty
  | layered ls => ls.all fun l => l.entries.isEmpty

end MapView

namespace Graph

/-- The elements of a sequence. -/
def elements? (g : Graph) (v : Value) : Option Elements :=
  match g.node? v with
  | some (.sequence _ xs) => some (.listed xs)
  | some (.range start stop step) => some (.progression start step (rangeSize start stop step))
  | _ => none

/-- The tables that a table or a chain consists of, looking into chains of chains for `depth` levels. -/
def layers (g : Graph) (m : Memory) : (depth : Nat) → Value → List Layer
  | 0, _ => []
  | depth + 1, v =>
    match v, g.node? v with
    | .ref i, some (.table (.defaulting _ fresh) es) => [⟨es ++ m.gained i, some (i, fresh)⟩]
    | _, some (.table _ es) => [⟨es, none⟩]
    | _, some (.chain vs) => vs.flatMap (g.layers m depth)
    | _, _ => []

/-- The map that a table or a chain is. -/
def mapping? (g : Graph) (m : Memory) (v : Value) : Option MapView :=
  match g.node? v with
  | some (.table ..) => some (.single ((g.layers m 1 v).flatMap Layer.entries))
  | some (.chain _) => some (.layered (g.layers m (g.nodes.size + 1) v))
  | _ => none

/-- The declared fields of an object in the order of their declaration, which fails at the first that
is not set. A name that is declared twice counts once. -/
def declaredFields (type : String) (attributes : List (String × Value)) :
    List String → Except Fault Entries
  | [] => .ok []
  | n :: ns =>
    match attributes.lookup n with
    | none => .error (.noAttribute type n)
    | some v => (declaredFields type attributes ns).map ((.text n, v) :: ·)

/-- The map that a map-like value is; `none` for values that are not map-like. -/
def mapLike? (g : Graph) (m : Memory) (v : Value) : Except Fault (Option MapView) :=
  match g.node? v with
  | some (.struct _ fields) => .ok (some (.single (fields.map fun f => (.text f.1, f.2))))
  | some (.model type (some declared) attributes) =>
    (declaredFields type attributes declared.eraseDups).map fun es => some (.single es)
  | _ => .ok (g.mapping? m v)

/-! ### Truth and emptiness -/

/-- The truth of a value: numbers other than zero and anything that holds something is true, and so are
all objects that are not known to be otherwise. -/
def truth (g : Graph) (m : Memory) (v : Value) : Except Fault Bool :=
  match v with
  | .null => .ok false
  | .bool b => .ok b
  | .int n => .ok (n != 0)
  | .float x => .ok !x.isZero
  | .decimal d => .ok !d.isZero
  | .text s => .ok (s != "")
  | .bytes bs => .ok !bs.isEmpty
  | .ref _ =>
    match g.node? v with
    | some (.set _ xs) => .ok !xs.isEmpty
    | some (.buffer bs) => .ok !bs.isEmpty
    | some (.object _ (.known b)) => .ok b
    | some (.object _ (.fails k t)) => .error (.raised k t)
    | some _ =>
      match g.elements? v, g.mapping? m v with
      | some xs, _ => .ok (xs.size != 0)
      | none, some view => .ok !view.isEmpty
      | none, none => .ok true
    | none => .ok false

/-- The sizes that can be counted. -/
def sizeLimit : Nat := Nat.pow 2 63

/-- Whether a value is empty. -/
def isEmpty (g : Graph) (m : Memory) (v : Value) : Except Fault Bool :=
  match g.elements? v with
  | some xs => if xs.size < sizeLimit then .ok (xs.size == 0) else .error .tooManyElements
  | none =>
    match g.mapLike? m v with
    | .error f => .error f
    | .ok (some view) => .ok view.isEmpty
    | .ok none =>
      match g.truth m v with
      | .ok b => .ok !b
      | .error f => if f.kind = .type || f.kind = .value then .ok false else .error f

end Graph

end Stencil
