import Stencil.Template.Basic
import Stencil.Text.Quoted

/-!
# Templates as text

`Template.description` writes a template out as a constructor term: a tuple of its parts, blocks with
the tuple of their children. A tuple of one part keeps a comma after it, so that it differs from the
part in parentheses.
-/

namespace Stencil

/-- The term for a leaf. -/
def Leaf.description : Leaf → String
  | .text s => "Text(value=" ++ Text.quoted s ++ ")"
  | .name s => "Name(name=" ++ Text.quoted s ++ ")"
  | .raw s => "Raw(name=" ++ Text.quoted s ++ ")"
  | .inclusion s => "Partial(name=" ++ Text.quoted s ++ ")"

/-- The word for a kind of block at the head of its term. -/
def BlockKind.head : BlockKind → String
  | .plain => "Section"
  | .inverted => "InvertedSection"

/-- Terms in parentheses with commas between them. -/
def tupleText : List String → String
  | [] => "()"
  | [s] => "(" ++ s ++ ",)"
  | ss => "(" ++ ", ".intercalate ss ++ ")"

namespace Template

/-- The terms for the parts of a template. -/
def partDescriptions : Template → List String
  | nil => []
  | leaf l r => l.description :: partDescriptions r
  | block k n b r =>
    (k.head ++ "(name=" ++ Text.quoted n ++ ", children=" ++ tupleText (partDescriptions b) ++ ")")
      :: partDescriptions r

/-- The term for a template. -/
def description (t : Template) : String := tupleText t.partDescriptions

end Template

end Stencil
