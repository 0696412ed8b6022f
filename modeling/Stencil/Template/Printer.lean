import Stencil.Template.Spelling

/-!
# Printing templates

`Template.print` writes a template as source from which it can be read again. Text is written as it is;
every tag has one blank on either side of its name and is closed by three braces. A closing delimiter of
three braces can be followed by a brace, and a name between blanks keeps apart from the braces, so that
delimiters are recognised where they were written. Two texts in a row have an empty tag between them, and
an empty template is an empty tag, since source must not be empty.
-/

namespace Stencil

namespace Template

/-- The delimiter that opens a tag. -/
def opening : List Char := ['{', '{']

/-- The delimiter that closes a tag in printed source. -/
def closing : List Char := ['}', '}', '}']

/-- A tag that holds nothing. -/
def emptyTag : List Char := opening ++ closing

/-- A tag with a mark and a name. -/
def printTag (mark : List Char) (name : String) : List Char :=
  opening ++ mark ++ ' ' :: (name.toList ++ ' ' :: closing)

/-- A template as source that follows a text if `afterText` holds. -/
def printAfter (afterText : Bool) : Template → List Char
  | nil => []
  | leaf (.text s) r => (if afterText then emptyTag else []) ++ s.toList ++ printAfter true r
  | leaf (.name n) r => printTag [] n ++ printAfter false r
  | leaf (.raw n) r => printTag ['&'] n ++ printAfter false r
  | leaf (.inclusion n) r => printTag ['>'] n ++ printAfter false r
  | block k n b r =>
    printTag [k.mark] n ++ printAfter false b ++ printTag ['/'] n ++ printAfter false r

/-- A template as source. -/
def print : Template → String
  | nil => String.ofList (opening ++ ['}', '}'])
  | t => String.ofList (printAfter false t)

end Template

end Stencil
