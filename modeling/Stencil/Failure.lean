import Stencil.Data.Fault
import Stencil.Template.Error

/-!
# Failures

An operation of the library fails for one of three reasons: the template source is unusable, an argument
has the wrong type or value, or a fault arose in the data.
-/

namespace Stencil

/-- An argument that an operation does not accept. -/
inductive ArgumentError
  /-- The switch for debug events is set to a value of the given type. -/
  | debugNotBool (type : String)
  /-- The limit of nesting is set to a value of the given type. -/
  | limitNotInteger (type : String)
  /-- The limit of nesting is set to an integer below one, whose text is given as well. -/
  | limitTooSmall (value : Int) (text : String)
  /-- A partial is registered under a name of the given type. -/
  | nameNotText (type : String)
  /-- A value of the given type is registered as a partial. -/
  | sourceNotText (type : String)
  deriving DecidableEq, Repr, Inhabited

namespace ArgumentError

/-- The code of the error. -/
def code : String := "INVALID_ARGUMENT"

/-- The error in a sentence. -/
def message : ArgumentError → String
  | debugNotBool type => "debug must be bool, got " ++ type
  | limitNotInteger type => "max_partial_depth must be int, got " ++ type
  | limitTooSmall _ text => "max_partial_depth must be at least 1, got " ++ text
  | nameNotText type => "Partial name must be str, got " ++ type
  | sourceNotText type => "Partial source must be str, got " ++ type

/-- The details of the error: the argument, and its type or value. -/
def details : ArgumentError → Entries
  | debugNotBool type => [(.text "param", .text "debug"), (.text "type", .text type)]
  | limitNotInteger type => [(.text "param", .text "max_partial_depth"), (.text "type", .text type)]
  | limitTooSmall v _ => [(.text "param", .text "max_partial_depth"), (.text "value", .int v)]
  | nameNotText type => [(.text "param", .text "name"), (.text "type", .text type)]
  | sourceNotText type => [(.text "param", .text "source"), (.text "type", .text type)]

end ArgumentError

/-- The details of an error in template source. -/
def SourceError.details : SourceError → Entries
  | .unusable type => [(.text "type", .text type)]
  | .misnested m =>
    [(.text "section", .text m.block), (.text "reason", .text m.reason)] ++
      match m.closedBy? with
      | none => []
      | some none => [(.text "closed_by", .null)]
      | some (some c) => [(.text "closed_by", .text c)]

/-- Why an operation failed. -/
inductive Failure
  | source (e : SourceError)
  | argument (e : ArgumentError)
  | fault (f : Fault)
  deriving DecidableEq, Repr, Inhabited

end Stencil
