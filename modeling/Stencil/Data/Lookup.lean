import Stencil.Data.Call
import Stencil.Text.Split

/-!
# Resolving names

A name resolves against a *scope*: a value, the single entry that an item of a sequence is seen
through, the globals alone, or a context in front of the globals.

A name with a dot after its first character is a path. Its segments are followed one after the other,
through maps by key and through sequences by index, and an empty value on the way ends the walk and is
the result. Any other name, such as `.` itself, is a single key. What is missing is `null`.
-/

namespace Stencil

/-- What names are resolved against. -/
inductive Scope
  | value (v : Value)
  /-- A table that belongs to no graph. -/
  | record (entries : Entries)
  /-- A mapping in front of the globals. -/
  | layered (v : Value) (globals : Entries)
  deriving DecidableEq, Repr

namespace Scope

/-- The scope of an item that has no names of its own: the item under the name `.`. -/
def item (v : Value) : Scope := record [(.text ".", v)]

end Scope

/-- The segments of a name between its dots. -/
def segments (name : String) : List String := (Text.cutAt '.' name.toList).map String.ofList

/-- Whether the name has a dot after its first character, and none before. -/
def isPath (name : String) : Bool :=
  match name.toList with
  | [] => false
  | '.' :: _ => false
  | _ :: cs => cs.contains '.'

namespace Graph

/-- The first of the tables that has a key, or gives it a default, answers it. A default is kept. -/
def answer (g : Graph) (key : Value) : List Layer → Run Value
  | [] => return .null
  | l :: ls =>
    match g.find? key l.entries, l.fallback with
    | some v, _ => return v
    | none, some (place, fresh) => do
      modify fun s => { s with memory := s.memory.gain place key fresh }
      return fresh
    | none, none => g.answer key ls

/-- The value under a key of a map. A chain is searched only if one of its tables has the key, and then
from the front, so that a table with a default may answer in place of the one that has it. -/
def get (g : Graph) (key : Value) : MapView → Run Value
  | .single es => return (g.find? key es).getD .null
  | .layered ls =>
    if ls.any fun l => (g.find? key l.entries).isSome then g.answer key ls else return .null

/-- The value at a key or index of a value. -/
def child (g : Graph) (v : Value) (key : String) : Run Value := do
  match ← Run.ofExcept (g.mapLike? (← Run.memory) v) with
  | some view => g.get (.text key) view
  | none =>
    match g.elements? v, Number.readInteger key.toList with
    | some xs, some i => return (xs.at? i).getD .null
    | _, _ => return .null

/-- Whether a value is empty now. -/
def empty? (g : Graph) (v : Value) : Run Bool := do Run.ofExcept (g.isEmpty (← Run.memory) v)

/-- Follow segments from a value until there are no more or the value is empty. -/
def walk (g : Graph) : Value → List String → Run Value
  | v, [] => return v
  | v, s :: ss => do
    if ← g.empty? v then return v
    g.walk (← g.child v s) ss

/-- The map that a scope of its own making is. -/
def scopeView (g : Graph) (m : Memory) : Scope → MapView
  | .value _ => .single []
  | .record es => .single es
  | .layered v globals => .layered (g.layers m (g.nodes.size + 1) v ++ [⟨globals, none⟩])

/-- The value at a key or index of a scope. -/
def scopeChild (g : Graph) (scope : Scope) (key : String) : Run Value := do
  match scope with
  | .value v => g.child v key
  | .record es => g.get (.text key) (.single es)
  | .layered .. => g.get (.text key) (g.scopeView (← Run.memory) scope)

/-- Follow segments from a scope. A scope that is empty is the result itself. -/
def scopeWalk (g : Graph) (scope : Scope) : List String → Run Value
  | [] => return .null
  | s :: ss =>
    match scope with
    | .value v => g.walk v (s :: ss)
    | _ => do g.walk (← g.scopeChild scope s) ss

/-- What a name resolves to before it is called. -/
def resolve (g : Graph) (scope : Scope) (name : String) : Run Value :=
  if isPath name then g.scopeWalk scope (segments name) else g.scopeChild scope name

/-- What a name stands for in a scope. -/
def lookup (g : Graph) (scope : Scope) (name : String) : Run Value := do
  g.invoke (← g.resolve scope name)

end Graph

end Stencil
