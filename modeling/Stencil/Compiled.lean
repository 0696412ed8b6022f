import Stencil.Operation
import Stencil.Render

/-!
# Compiled templates

A compiled template is source text together with the template read from it. It can be rendered any
number of times, and it can be asked which names it mentions.

Walking over a template needs stack for every level of nesting, so these questions fail for templates
that are nested too deeply, which compiling them does not.
-/

namespace Stencil

/-- A template with its source. -/
structure Compiled where
  source : String
  template : Template
  deriving DecidableEq, Repr

namespace Template

/-- All parts in document order. The walk takes a frame for the body of each block. -/
def itemsIn (stack : Stack) : Template → Run (List Item)
  | nil => return []
  | leaf l rest => return .leaf l :: (← itemsIn stack rest)
  | block kind name body rest => do
    let inside ← itemsIn (← stack.enter 1) body
    return .block kind name :: (inside ++ (← itemsIn stack rest))

/-- The names that the template looks up, without repetition. -/
def variablesIn (stack : Stack) (t : Template) : Run (List String) :=
  return ((← t.itemsIn stack).filterMap Item.lookedUp).eraseDups

/-- The names of the partials in the template, without repetition. -/
def inclusionsIn (stack : Stack) (t : Template) : Run (List String) :=
  return ((← t.itemsIn stack).filterMap Item.included).eraseDups

/-- The constructor term for a template, which takes two frames for each block. -/
def descriptionIn (stack : Stack) (t : Template) : Run String := do
  let _ ← stack.enter (2 * t.height)
  return t.description

/-- The template with the differences between kinds of leaf and kinds of block removed. Templates that
agree in this have the same hash. -/
def withoutKinds : Template → Template
  | nil => nil
  | leaf (.text s) r => leaf (.text s) r.withoutKinds
  | leaf (.name s) r => leaf (.text s) r.withoutKinds
  | leaf (.raw s) r => leaf (.text s) r.withoutKinds
  | leaf (.inclusion s) r => leaf (.text s) r.withoutKinds
  | block _ n b r => block .plain n b.withoutKinds r.withoutKinds

end Template

namespace Compiled

/-- Compile a value, which has to be text that is not empty and whose blocks nest. -/
def ofValue (g : Graph) (settings : Settings) (v : Value) : Operation Compiled :=
  match v with
  | .text s =>
    if s = "" then throw (.source (.unusable (g.typeName v)))
    else
      match Template.parse s with
      | .error m => throw (.source (.misnested m))
      | .ok t => do
        if settings.debug then Operation.ofRun (Run.report (.parsed s.length t.length))
        return ⟨s, t⟩
  | _ => throw (.source (.unusable (g.typeName v)))

/-- The number of characters of the source that `description` shows. -/
def previewLength : Nat := 50

/-- The compiled template as a term, which shows the beginning of its source. -/
def description (c : Compiled) : String :=
  let cs := c.source.toList
  let preview := String.ofList (cs.take previewLength) ++ (if previewLength < cs.length then "..." else "")
  "CompiledTemplate(" ++ Text.quoted preview ++ ")"

end Compiled

/-- Render a template outside all environments. -/
def renderAlone (g : Graph) (settings : Settings) (t : Template) (context partials : Value) : Operation String :=
  Operation.ofRun ((Setting.mk g settings (.value partials)).render t (.value context) Stack.ordinary)

end Stencil
