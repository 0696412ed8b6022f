import Stencil.Data.Lookup

/-!
# Tables from other values

A table can be filled from a mapping, whose entries it takes over, or from any value that can be iterated
over and whose elements are pairs of key and value. `Graph.mergeOver` puts such entries over those that
are there; elements that are no pairs, and keys that cannot be keys, end it in a fault.
-/

namespace Stencil

namespace Graph

/-- The keys of the tables of a chain, those of the last table first. -/
def chainKeys (g : Graph) (ls : List Layer) : List Value :=
  (ls.reverse.foldl (fun es l => g.putAll es (l.entries.map fun e => (e.1, .null))) []).map Prod.fst

/-- The keys of a map in their order. -/
def keysOf (g : Graph) : MapView → List Value
  | .single es => es.map Prod.fst
  | .layered ls => g.chainKeys ls

/-- The entries of a map, found key by key. -/
def entriesOf (g : Graph) (view : MapView) : Run Entries :=
  match view with
  | .single es => return es
  | .layered ls => (g.chainKeys ls).mapM fun k => return (k, ← g.get k (.layered ls))

/-- What iterating over a value gives: elements, characters, bytes, or keys. -/
def iterate? (g : Graph) (m : Memory) (v : Value) : Option (List Value) :=
  match v, g.node? v with
  | .text s, _ => some (s.toList.map fun c => .text (String.singleton c))
  | .bytes bs, _ => some (bs.map fun b => .int b.toNat)
  | _, some (.buffer bs) => some (bs.map fun b => .int b.toNat)
  | _, some (.set _ xs) => some xs
  | _, _ =>
    match g.elements? v with
    | some xs => some xs.toList
    | none => (g.mapping? m v).map g.keysOf

/-- The value of an attribute of an object or a type. -/
def attribute? (g : Graph) (v : Value) (name : String) : Option Value :=
  match g.node? v with
  | some (.struct _ fields) => fields.lookup name
  | some (.structType _ fields _) => (fields.lookup name).join
  | some (.model _ _ attributes) => attributes.lookup name
  | some (.sequence (.named _ names) xs) => (names.zip xs).lookup name
  | _ => none

/-- The fault of a value that lacks an attribute. -/
def lacking (g : Graph) (v : Value) (name : String) : Fault :=
  match g.node? v with
  | some (.structType type ..) => .noTypeAttribute type name
  | _ => .noAttribute (g.qualifiedTypeName v) name

/-- Put a value under a key that may turn out to be no key. -/
def putChecked (g : Graph) (es : Entries) (key value : Value) : Except Fault Entries :=
  match g.unhashablePart? keyDepth key with
  | some part => .error (.unhashable (g.qualifiedTypeName part))
  | none => .ok (g.put es key value)

/-- Erase a key that may turn out to be no key. -/
def eraseChecked (g : Graph) (es : Entries) (key : Value) : Except Fault Entries :=
  match g.unhashablePart? keyDepth key with
  | some part => .error (.unhashable (g.qualifiedTypeName part))
  | none => .ok (g.erase es key)

/-- Put pairs over entries, where the first pair is the element number `place`. -/
def putPairs (g : Graph) (m : Memory) (es : Entries) : (place : Nat) → List Value → Except Fault Entries
  | _, [] => .ok es
  | place, x :: xs =>
    match g.iterate? m x with
    | none => .error (.elementNotSequence place)
    | some [k, v] => do g.putPairs m (← g.putChecked es k v) (place + 1) xs
    | some l => .error (.elementNotPair place l.length)

/-- The entries with those of a value put over them. -/
def mergeOver (g : Graph) (es : Entries) (v : Value) : Run Entries := do
  match g.mapping? (← Run.memory) v with
  | some view => return g.putAll es (← g.entriesOf view)
  | none =>
    match g.attribute? v "keys", g.iterate? (← Run.memory) v with
    | some a, _ => Run.fail (.notCallable (g.qualifiedTypeName a))
    | none, none => Run.fail (.notIterable (g.qualifiedTypeName v))
    | none, some xs => Run.ofExcept (g.putPairs (← Run.memory) es 0 xs)

end Graph

end Stencil
