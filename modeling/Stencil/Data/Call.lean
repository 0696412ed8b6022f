import Stencil.Data.View

/-!
# Calling

A value that a name resolves to is called if it is callable, and what the call returns takes its place;
the result is not called again. Callables that need an argument, or whose parameters are unknown, are
not called: they count as missing.
-/

namespace Stencil

/-- Whether a parameter may be left unfilled. -/
def Parameter.isOptional (p : Parameter) : Bool :=
  match p.kind with
  | .variadic => true
  | .variadicKeyword => true
  | .positionalOnly => p.hasDefault
  | .positional => p.hasDefault
  | .keywordOnly => p.hasDefault

/-- Whether parameters that may be unknown allow a call without arguments. -/
def callableBare (parameters : Option (List Parameter)) : Bool :=
  match parameters with
  | none => false
  | some ps => ps.all Parameter.isOptional

/-- What the call number `k`, counted from zero, returns. -/
def Behaviour.reply (first : Value) (later : List Value) (k : Nat) : Value :=
  (first :: later).getD (min k later.length) first

namespace Graph

/-- Call the callable at a place. -/
def call (place : Nat) : Behaviour → Run Value
  | .fails kind text => do
    modify fun s => { s with memory := s.memory.call place }
    Run.fail (.raised kind text)
  | .replies first later => do
    let k := (← Run.memory).calls place
    modify fun s => { s with memory := s.memory.call place }
    return Behaviour.reply first later k

/-- The value itself, or what calling it returns. -/
def invoke (g : Graph) (v : Value) : Run Value :=
  match v, g.node? v with
  | .ref i, some (.callable parameters behaviour) =>
    if callableBare parameters then call i behaviour else return .null
  | _, some (.structType _ fields sample) =>
    if fields.all fun f => f.2.isSome then return sample else return .null
  | _, _ => return v

end Graph

end Stencil
