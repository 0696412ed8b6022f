import Stencil.Failure
import Stencil.Data.Binding
import Stencil.Data.Merge
import Stencil.Data.Display
import Stencil.Text.Case

/-!
# Error reports

An error of the library is reported as a message with a stable code and a table of details; the report of
blocks that do not nest also has the name of the block and the reason. `Failure.report?` gives the report
of a failure. Programs that use the library can make reports of the same kinds themselves, from arguments
of any type (`ReportKind.make`), where the code has a default for each kind.

The kinds form a hierarchy, so that those who handle errors can ask for all errors in templates, or for
all bad values, at once (`ReportKind.families`).
-/

namespace Stencil

/-- The kinds of report. -/
inductive ReportKind
  /-- Any error of the library. -/
  | general
  /-- Any error in a template. -/
  | template
  /-- A value that is no template source. -/
  | unusable
  /-- Blocks that do not nest. -/
  | misnested
  /-- An argument of the wrong type or value. -/
  | argument
  deriving DecidableEq, Repr, Inhabited

/-- The families of errors that handlers can ask for. -/
inductive ErrorFamily
  | template
  | value
  | runtime
  deriving DecidableEq, Repr, Inhabited

/-- The details of a report: a table of its own, or whatever value it was made with. -/
inductive Details
  | entries (es : Entries)
  | value (v : Value)
  deriving DecidableEq, Repr, Inhabited

/-- A report. -/
structure Report where
  kind : ReportKind
  message : Value
  code : Value
  details : Details
  /-- The block that is at fault and the reason, in reports about nesting. -/
  place : Option (Value × Value)
  deriving DecidableEq, Repr, Inhabited

namespace ReportKind

/-- The name of a kind. -/
def name : ReportKind → String
  | general => "WhiskerError"
  | template => "TemplateError"
  | unusable => "InvalidTemplateError"
  | misnested => "ParseError"
  | argument => "ValidationError"

/-- The families that a kind belongs to. -/
def families : ReportKind → List ErrorFamily
  | general => []
  | template => [.template, .runtime]
  | unusable => [.template, .value, .runtime]
  | misnested => [.template, .runtime]
  | argument => [.value]

/-- The code of a report that is made without one. -/
def code : ReportKind → String
  | general => "INTERNAL_ERROR"
  | template => "TEMPLATE_ERROR"
  | unusable => SourceError.unusableCode
  | misnested => Misnesting.code
  | argument => ArgumentError.code

/-- The parameters from which reports of a kind are made. -/
def signature (k : ReportKind) : Signature :=
  match k with
  | general => ⟨k.name, ["message"], ["code", "details"]⟩
  | template => ⟨k.name, ["message"], ["code", "details"]⟩
  | unusable => ⟨k.name, [], ["message", "code", "details"]⟩
  | misnested => ⟨k.name, ["section", "reason"], ["code", "details"]⟩
  | argument => ⟨k.name, ["message"], ["code", "details"]⟩

/-- Details as they are given: a value that counts as false stands for an empty table. -/
def detailsOf (g : Graph) (v : Value) : Run Details := do
  if ← Run.ofExcept (g.truth (← Run.memory) v) then return .value v else return .entries []

/-- A report about nesting. Its message is the reason with a capital and the block in double quotes, and
its details begin with block and reason, over which the given details are put. -/
def makeMisnested (g : Graph) (block reason code details : Value) : Run Report := do
  match reason with
  | .text word =>
    let blockText ← Run.ofExcept (g.display (← Run.memory) block)
    let message := Text.capitalize word ++ " section \"" ++ blockText ++ "\""
    let own : Entries := [(.text "section", block), (.text "reason", reason)]
    let given ← Run.ofExcept (g.truth (← Run.memory) details)
    let merged ← if given then g.mergeOver own details else pure own
    return ⟨misnested, .text message, code, .entries merged, some (block, reason)⟩
  | _ => Run.fail (g.lacking reason "capitalize")

/-- Make a report of a kind from positional and named arguments. -/
def make (g : Graph) (k : ReportKind) (positional : List Value) (named : List (String × Value)) :
    Run Report := do
  let bound ← Run.ofExcept (k.signature.bind positional named)
  let given (name : String) (default : Value) : Value := (bound.lookup name).getD default
  let code := given "code" (.text k.code)
  let details := given "details" .null
  match k with
  | misnested => makeMisnested g (given "section" .null) (given "reason" .null) code details
  | unusable =>
    let message := match given "message" .null with
      | .null => .text SourceError.unusableMessage
      | v => v
    return ⟨k, message, code, ← detailsOf g details, none⟩
  | _ => return ⟨k, given "message" .null, code, ← detailsOf g details, none⟩

end ReportKind

namespace Report

/-- The message of a report as text. -/
def text (g : Graph) (m : Memory) (r : Report) : Except Fault String := g.display m r.message

/-- A report as a term, which shows message and code. -/
def description (g : Graph) (m : Memory) (r : Report) : Except Fault String := do
  return r.kind.name ++ "(" ++ (← g.quote m r.message) ++ ", code=" ++ (← g.quote m r.code) ++ ")"

/-- The report of an argument that is not accepted. -/
def ofArgument (e : ArgumentError) : Report :=
  ⟨.argument, .text e.message, .text ArgumentError.code, .entries e.details, none⟩

/-- The report of an error in template source. -/
def ofSource (e : SourceError) : Report :=
  match e with
  | .unusable _ => ⟨.unusable, .text e.message, .text e.code, .entries e.details, none⟩
  | .misnested m =>
    ⟨.misnested, .text e.message, .text e.code, .entries e.details, some (.text m.block, .text m.reason)⟩

end Report

/-- The report of a failure; a fault in the data has none. -/
def Failure.report? : Failure → Option Report
  | .source e => some (.ofSource e)
  | .argument e => some (.ofArgument e)
  | .fault _ => none

end Stencil
