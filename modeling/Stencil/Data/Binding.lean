import Stencil.Data.Fault

/-!
# Binding arguments to parameters

A constructor has parameters that can be given by position or by name, and the last of which may be left
out. `Signature.bind` matches positional and named arguments with them. Named arguments are looked at
before the number of positional ones is, and that before it is asked what is missing.
-/

namespace Stencil

/-- The parameters of a constructor: those that have to be given come first. -/
structure Signature where
  /-- The name of the constructor. -/
  owner : String
  required : List String
  optional : List String
  deriving DecidableEq, Repr

namespace Signature

/-- All parameters. The first position is taken by the object that is constructed. -/
def parameters (s : Signature) : List String := "self" :: (s.required ++ s.optional)

/-- The fault of arguments that do not fit. -/
def misfit (s : Signature) (complaint : String) : Fault := .arguments (s.owner ++ ".__init__() " ++ complaint)

/-- A name between single quotes. -/
def quotedName (name : String) : String := "'" ++ name ++ "'"

/-- Names in a row, the last after the word "and". -/
def enumeration : List String → String
  | [] => ""
  | [a] => quotedName a
  | [a, b] => quotedName a ++ " and " ++ quotedName b
  | names => ", ".intercalate (names.dropLast.map quotedName) ++ ", and " ++ quotedName (names.getLastD "")

/-- Check the names of the named arguments: each has to be that of a parameter without a value. -/
def checkNames (s : Signature) (taken : List String) : List String → Except Fault Unit
  | [] => .ok ()
  | n :: ns =>
    if !s.parameters.contains n then
      .error (s.misfit ("got an unexpected keyword argument " ++ quotedName n))
    else if taken.contains n then
      .error (s.misfit ("got multiple values for argument " ++ quotedName n))
    else s.checkNames (n :: taken) ns

/-- Check that there are not too many positional arguments. -/
def checkCount (s : Signature) (given : Nat) : Except Fault Unit :=
  let most := s.parameters.length
  if given ≤ most then .ok ()
  else
    .error (s.misfit ("takes from " ++ toString (s.required.length + 1) ++ " to " ++ toString most ++
      " positional arguments but " ++ toString given ++ " were given"))

/-- The names and values of the parameters that are given. -/
def bind (s : Signature) (positional : List Value) (named : List (String × Value)) :
    Except Fault (List (String × Value)) := do
  let byPlace := (s.required ++ s.optional).zip positional
  s.checkNames ("self" :: byPlace.map Prod.fst) (named.map Prod.fst)
  s.checkCount (positional.length + 1)
  let bound := byPlace ++ named
  match s.required.filter fun n => (bound.lookup n).isNone with
  | [] => return bound
  | missing =>
    throw (s.misfit ("missing " ++ toString missing.length ++ " required positional argument" ++
      (if missing.length = 1 then "" else "s") ++ ": " ++ enumeration missing))

end Signature

end Stencil
