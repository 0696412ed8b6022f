import Stencil.Text.Blank
import Stencil.Template.Basic

/-!
# From source text to pieces

Template source alternates between text and tags. Reading it takes three steps, each a function of its
own.

* `unifyDelimiters` writes every closing delimiter as an opening one. A closing delimiter is a run of
  two or three closing braces, the longer one where both are possible, found from left to right.
* `chunks` cuts the result at every opening delimiter. The chunks with an odd number are then the
  bodies of the tags and the others the text between them; a delimiter without partner shifts this
  parity for all that follows, which is intended: `a}}b` has the tag `b`.
* `Piece.ofText` and `Piece.ofTag` say what a chunk contributes. An empty chunk contributes nothing, nor
  does a comment; the first character of a tag decides what the tag is.

The result of the three steps is `pieces`: the leaves of the template together with its opening and
closing tags, in document order. Whether the tags match is not asked here.
-/

namespace Stencil

/-- What one chunk of source contributes to a template. -/
inductive Piece
  | leaf (l : Leaf)
  | opening (kind : BlockKind) (name : String)
  | closing (name : String)
  deriving DecidableEq, Repr, Inhabited

/-- The source with every closing delimiter written as an opening one. -/
def unifyDelimiters : List Char → List Char
  | '}' :: '}' :: '}' :: cs => '{' :: '{' :: unifyDelimiters cs
  | '}' :: '}' :: cs => '{' :: '{' :: unifyDelimiters cs
  | c :: cs => c :: unifyDelimiters cs
  | [] => []

/-- The parts of a text between its opening delimiters, which are found from left to right. There is
one part more than there are delimiters. -/
def cutAtOpening : List Char → List (List Char)
  | '{' :: '{' :: cs => [] :: cutAtOpening cs
  | c :: cs =>
    match cutAtOpening cs with
    | [] => [[c]]
    | d :: ds => (c :: d) :: ds
  | [] => [[]]

/-- The chunks of template source: text and tag bodies in turn, text first. -/
def chunks (source : List Char) : List (List Char) := cutAtOpening (unifyDelimiters source)

namespace Piece

/-- The name written in a tag, trimmed of blanks. -/
def nameOf (cs : List Char) : String := String.ofList (Text.trim cs)

/-- A chunk of text contributes itself, unless it is empty. -/
def ofText : List Char → Option Piece
  | [] => none
  | c :: cs => some (.leaf (.text (String.ofList (c :: cs))))

/-- A tag contributes what its first character says: `!` is a comment, `#` and `^` open a block, `/`
closes one, `>` includes a template, `&` and `{` interpolate a value as it is. Any other tag
interpolates the value of its whole text, escaped; an empty tag contributes nothing. -/
def ofTag : List Char → Option Piece
  | [] => none
  | '!' :: _ => none
  | '#' :: cs => some (.opening .plain (nameOf cs))
  | '^' :: cs => some (.opening .inverted (nameOf cs))
  | '/' :: cs => some (.closing (nameOf cs))
  | '>' :: cs => some (.leaf (.inclusion (nameOf cs)))
  | '&' :: cs => some (.leaf (.raw (nameOf cs)))
  | '{' :: cs => some (.leaf (.raw (nameOf cs)))
  | c :: cs => some (.leaf (.name (nameOf (c :: cs))))

/-- What a chunk contributes, given whether it is the body of a tag. -/
def ofChunk (isTag : Bool) (chunk : List Char) : Option Piece :=
  if isTag then ofTag chunk else ofText chunk

/-- The contributions of a list of chunks, of which the first is the body of a tag if `isTag` holds. -/
def ofChunks (isTag : Bool) : List (List Char) → List Piece
  | [] => []
  | c :: cs => (ofChunk isTag c).toList ++ ofChunks (!isTag) cs

end Piece

/-- The pieces of template source in document order. -/
def pieces (source : List Char) : List Piece := Piece.ofChunks false (chunks source)

end Stencil
