import Stencil.Template.Nesting

/-!
# Errors in template source

Source is refused for two causes: it is not text at all or empty, or its blocks do not nest. Each error
has a stable code, a message, and details for programs; of a misnested block the details are its name
and the word that sums up the cause, and which closing tag it was closed by, if any.
-/

namespace Stencil

namespace Misnesting

/-- The name of the block that is at fault. -/
def block : Misnesting → String
  | unopened n => n
  | mismatched n _ => n
  | unfinished n => n

/-- The cause in one word: closed without being open, or open where it must be closed. -/
def reason : Misnesting → String
  | unopened _ => "unopened"
  | mismatched .. => "unclosed"
  | unfinished _ => "unclosed"

/-- The cause in a sentence. -/
def message (m : Misnesting) : String :=
  let verdict := match m with
    | unopened _ => "Unopened"
    | mismatched .. => "Unclosed"
    | unfinished _ => "Unclosed"
  verdict ++ " section \"" ++ m.block ++ "\""

/-- The name on the closing tag that meets an open block, and `some none` where the source ends. -/
def closedBy? : Misnesting → Option (Option String)
  | unopened _ => none
  | mismatched _ c => some (some c)
  | unfinished _ => some none

/-- The code of the error. -/
def code : String := "TEMPLATE_PARSE_ERROR"

end Misnesting

/-- Why a value is no template source. -/
inductive SourceError
  /-- It is empty text, or a value of the given type that is not text. -/
  | unusable (type : String)
  | misnested (m : Misnesting)
  deriving DecidableEq, Repr, Inhabited

namespace SourceError

/-- The code of the error that a value is no source. -/
def unusableCode : String := "TEMPLATE_INVALID"

/-- What is required of a value that is to be source. -/
def unusableMessage : String := "Template must be a non-empty string"

/-- The code of the error. -/
def code : SourceError → String
  | unusable _ => unusableCode
  | misnested _ => Misnesting.code

/-- The error in a sentence. -/
def message : SourceError → String
  | unusable _ => unusableMessage
  | misnested m => m.message

end SourceError

end Stencil
