import Stencil.Number.Binary64
import Stencil.Number.Decimal

/-!
# Data

The data that templates are rendered against is a graph. A `Value` is a scalar or the place of a node,
and a `Graph` is an array of nodes: sequences, tables of keys and values, objects with fields, objects
of which nothing but a text and a truth value is known, and callables. Two values that refer to the same
place are the same object, which is how sharing and values that contain themselves are expressed.

A graph never changes. What can change about an object is kept elsewhere (`Stencil.Memory`): how often a
callable has been called, and the entries that tables with a default have gained.
-/

namespace Stencil

open Number (Binary64 Decimal)

/-- A scalar, or the place of a node in a graph. -/
inductive Value
  | null
  | bool (b : Bool)
  | int (n : Int)
  | float (x : Binary64)
  | decimal (d : Decimal)
  | text (s : String)
  | bytes (bs : List UInt8)
  | ref (place : Nat)
  deriving DecidableEq, Repr, Inhabited

/-- Keys and values in the order of insertion. -/
abbrev Entries := List (Value × Value)

/-- The kinds of failure that can be told apart by those who handle them. -/
inductive FaultKind
  | value
  | type
  | runtime
  | key
  | index
  | attribute
  | recursion
  | overflow
  | system
  /-- What ends an iteration where nothing more comes. -/
  | stop
  | other (name : String)
  deriving DecidableEq, Repr, Inhabited

/-- The kinds of sequence. -/
inductive SequenceKind
  | list
  | tuple
  | deque
  /-- A tuple whose places have names. -/
  | named (type : String) (fields : List String)
  deriving DecidableEq, Repr, Inhabited

/-- What a table with a default makes for a key that it lacks. -/
inductive Factory
  | int
  | text
  | list
  | table
  deriving DecidableEq, Repr, Inhabited

/-- The kinds of table. -/
inductive TableKind
  | plain
  /-- A table to which the order of its entries matters. -/
  | ordered
  /-- A table that is held by another object. -/
  | wrapped
  /-- A view of a table that cannot be changed. -/
  | readOnly
  /-- A table that answers a key it lacks with a fresh value, which it keeps. The value is the same
  for every key and is found at `fresh`. -/
  | defaulting (factory : Factory) (fresh : Value)
  deriving DecidableEq, Repr, Inhabited

/-- The ways in which a parameter can be filled. -/
inductive ParameterKind
  | positionalOnly
  | positional
  | variadic
  | keywordOnly
  | variadicKeyword
  deriving DecidableEq, Repr, Inhabited

/-- A parameter of a callable. -/
structure Parameter where
  kind : ParameterKind
  hasDefault : Bool
  deriving DecidableEq, Repr, Inhabited

/-- What calling a callable does. -/
inductive Behaviour
  /-- The calls return `first` and then the values of `later`, the last of them from then on. -/
  | replies (first : Value) (later : List Value)
  /-- Every call fails. -/
  | fails (kind : FaultKind) (message : String)
  deriving DecidableEq, Repr, Inhabited

/-- What testing the truth of an object does. -/
inductive Truth
  | known (b : Bool)
  | fails (kind : FaultKind) (message : String)
  deriving DecidableEq, Repr, Inhabited

/-- The objects that values refer to. -/
inductive Node
  | sequence (kind : SequenceKind) (items : List Value)
  /-- The integers from `start` by steps of `step` as long as they are before `stop`. -/
  | range (start stop step : Int)
  | table (kind : TableKind) (entries : Entries)
  /-- Tables in front of each other, the first in front of all. -/
  | chain (layers : List Value)
  /-- An object that has its fields and nothing else. -/
  | struct (type : String) (fields : List (String × Value))
  /-- The type of such objects, with the defaults of the fields. Where all fields have one, `sample` is
  the object that calling the type returns. -/
  | structType (type : String) (fields : List (String × Option Value)) (sample : Value)
  /-- An object whose type declares the names of its fields, if `declared` is given. It can have
  attributes that are not declared, and lack some that are. -/
  | model (type : String) (declared : Option (List String)) (attributes : List (String × Value))
  | set (frozen : Bool) (items : List Value)
  /-- Bytes that can be changed. -/
  | buffer (bs : List UInt8)
  /-- An object of which only its text and its truth value are known. -/
  | object (text : String) (truth : Truth)
  /-- A callable, whose parameters may be unknown. -/
  | callable (parameters : Option (List Parameter)) (behaviour : Behaviour)
  deriving DecidableEq, Repr, Inhabited

/-- The node, among some that are known by place, that a value refers to. -/
def Value.nodeIn? (nodes : Array Node) : Value → Option Node
  | .ref i => nodes[i]?
  | _ => none

/-- Whether a value is what a factory makes: zero, the empty text, an empty list, or an empty table. -/
def Factory.Makes (nodes : Array Node) : Factory → Value → Prop
  | .int, v => v = .int 0
  | .text, v => v = .text ""
  | .list, v => v.nodeIn? nodes = some (.sequence .list [])
  | .table, v => v.nodeIn? nodes = some (.table .plain [])

instance (nodes : Array Node) (v : Value) : (factory : Factory) → Decidable (factory.Makes nodes v)
  | .int => inferInstanceAs (Decidable (v = .int 0))
  | .text => inferInstanceAs (Decidable (v = .text ""))
  | .list => inferInstanceAs (Decidable (v.nodeIn? nodes = some (.sequence .list [])))
  | .table => inferInstanceAs (Decidable (v.nodeIn? nodes = some (.table .plain [])))

/-- Whether a node that is a table with a default has one that its factory makes. -/
def Node.KeepsDefault (nodes : Array Node) : Node → Prop
  | .table (.defaulting factory fresh) _ => factory.Makes nodes fresh
  | _ => True

instance (nodes : Array Node) : (n : Node) → Decidable (n.KeepsDefault nodes)
  | .table (.defaulting factory fresh) _ => inferInstanceAs (Decidable (factory.Makes nodes fresh))
  | .table .plain _ | .table .ordered _ | .table .wrapped _ | .table .readOnly _ => isTrue trivial
  | .sequence .. | .range .. | .chain .. | .struct .. | .structType .. | .model .. | .set .. | .buffer .. | .object ..
  | .callable .. => isTrue trivial

/-- A graph of data: its nodes by place. The defaults of its tables are what their factories make. -/
structure Graph where
  nodes : Array Node
  keepsDefaults : ∀ n ∈ nodes.toList, n.KeepsDefault nodes
  deriving DecidableEq, Repr

namespace Graph

/-- The graph without nodes. -/
def empty : Graph := ⟨#[], nofun⟩

instance : Inhabited Graph := ⟨empty⟩

/-- The node that a value refers to. -/
def node? (g : Graph) (v : Value) : Option Node := v.nodeIn? g.nodes

theorem node?_ref (g : Graph) (place : Nat) : g.node? (.ref place) = g.nodes[place]? := rfl

/-- What a table with a default answers for a key that it lacks is what its factory makes. -/
theorem makes_of_getElem? {g : Graph} {place : Nat} {factory : Factory} {fresh : Value} {es : Entries}
    (h : g.nodes[place]? = some (.table (.defaulting factory fresh) es)) : factory.Makes g.nodes fresh :=
  g.keepsDefaults _ (Array.mem_toList_iff.mpr (Array.mem_of_getElem? h))

/-- The name of the type of a node. -/
def typeNameOfNode : Node → String
  | .sequence .list _ => "list"
  | .sequence .tuple _ => "tuple"
  | .sequence .deque _ => "deque"
  | .sequence (.named type _) _ => type
  | .range .. => "range"
  | .table .plain _ => "dict"
  | .table .ordered _ => "OrderedDict"
  | .table .wrapped _ => "UserDict"
  | .table .readOnly _ => "mappingproxy"
  | .table (.defaulting ..) _ => "defaultdict"
  | .chain _ => "ChainMap"
  | .struct type _ => type
  | .structType .. => "type"
  | .model type .. => type
  | .set false _ => "set"
  | .set true _ => "frozenset"
  | .buffer _ => "bytearray"
  | .object .. => "Obj"
  | .callable .. => "Fn"

/-- The name of the type of a value. -/
def typeName (g : Graph) : Value → String
  | .null => "NoneType"
  | .bool _ => "bool"
  | .int _ => "int"
  | .float _ => "float"
  | .decimal _ => "Decimal"
  | .text _ => "str"
  | .bytes _ => "bytes"
  | .ref i => (g.nodes[i]?.map typeNameOfNode).getD "NoneType"

/-- The name of the type of a value as some messages give it, with the module that defines it. -/
def qualifiedTypeName (g : Graph) (v : Value) : String :=
  let plain := g.typeName v
  match v, g.node? v with
  | .decimal _, _ => "decimal." ++ plain
  | _, some (.sequence .deque _) => "collections." ++ plain
  | _, some (.table .ordered _) => "collections." ++ plain
  | _, some (.table (.defaulting ..) _) => "collections." ++ plain
  | _, _ => plain

end Graph

end Stencil
