import Stencil.Template.Source

/-!
# Templates as bracketed pieces

A template is written in a line as its pieces, each block as an opening piece, the pieces of its body and
a closing piece of the same name. `Template.toPieces` writes a template that way, and `Nested` says of a list
of pieces that its opening and closing pieces pair up like brackets, without building a template. The two
agree (`nested_iff`): what nests is what some template is written as.

Which pieces source has is said here once more, without the scanner: every chunk stands for a part of a template, for
the end of a block or for nothing, as its number and its first character say (`Stencil.Piece.readAs`).

Pieces that nest pair up in one way. `Matched` says that an opening and a closing piece are such a pair, and
`Template.spans` lists the pairs that the blocks of a template make.
-/

namespace Stencil

/-! ### What chunks stand for -/

namespace Item

/-- The marks of the tags that stand for a part, each with the part that it makes of a name. -/
def marks : List (Char × (String → Item)) :=
  [('#', .block .plain), ('^', .block .inverted), ('>', .leaf ∘ .inclusion), ('&', .leaf ∘ .raw), ('{', .leaf ∘ .raw)]

/-- The part that a tag stands for. An empty tag stands for none, nor does a comment or a tag that closes a block. The
mark of a tag is no part of the name, and a tag without one is a name as a whole. -/
def ofTag : List Char → Option Item
  | [] => none
  | c :: cs =>
    if c = '!' ∨ c = '/' then none
    else
      match marks.lookup c with
      | some part => some (part (String.ofList (Text.trim cs)))
      | none => some (.leaf (.name (String.ofList (Text.trim (c :: cs)))))

/-- The part that a chunk stands for, given its number: those with an odd number are tags, the others text. -/
def ofChunk (number : Nat) (chunk : List Char) : Option Item :=
  if number % 2 = 1 then ofTag chunk
  else if chunk = [] then none
  else some (.leaf (.text (String.ofList chunk)))

end Item

namespace Piece

/-- The piece that a part of a template begins with. -/
def ofItem : Item → Piece
  | .leaf l => .leaf l
  | .block kind n => .opening kind n

/-- The piece that a chunk is read as, given its number. A tag with the mark `/` closes a block, and any other chunk is
read as the part that it stands for. -/
def readAs (number : Nat) (chunk : List Char) : Option Piece :=
  if number % 2 = 1 ∧ chunk.head? = some '/' then some (.closing (String.ofList (Text.trim chunk.tail)))
  else (Item.ofChunk number chunk).map ofItem

end Piece

/-- What the chunks of source are read as, in their order. -/
def reading (source : List Char) : List Piece :=
  (chunks source).zipIdx.filterMap fun c => Piece.readAs c.2 c.1

/-! ### Pieces that nest -/

/-- A list of pieces in which opening and closing pieces pair up, with the same name in each pair. -/
inductive Nested : List Piece → Prop
  | nil : Nested []
  | leaf (l : Leaf) {ps : List Piece} : Nested ps → Nested (.leaf l :: ps)
  | block (kind : BlockKind) (name : String) {body rest : List Piece} :
    Nested body → Nested rest → Nested (.opening kind name :: (body ++ .closing name :: rest))

/-- Whether pieces can be continued to pieces that nest. -/
def CanNest (ps : List Piece) : Prop := ∃ rest, Nested (ps ++ rest)

/-- A block among pieces: its kind and its name, and the places of its opening and its closing piece. -/
structure BlockSpan where
  kind : BlockKind
  name : String
  first : Nat
  last : Nat
  deriving DecidableEq, Repr

/-- Whether the pieces at the two ends of a span open and close its block, and what is between them nests. -/
def Matched (ps : List Piece) (b : BlockSpan) : Prop :=
  ∃ before inside after : List Piece, Nested inside ∧
    ps = before ++ .opening b.kind b.name :: (inside ++ .closing b.name :: after) ∧
    b.first = before.length ∧ b.last = before.length + 1 + inside.length

namespace Template

/-- The pieces of a template in document order. -/
def toPieces : Template → List Piece
  | nil => []
  | leaf l r => .leaf l :: toPieces r
  | block k n b r => .opening k n :: (toPieces b ++ .closing n :: toPieces r)

/-- The blocks of a template, of which the first piece has the place `start`. -/
def spans (start : Nat) : Template → List BlockSpan
  | nil => []
  | leaf _ r => spans (start + 1) r
  | block k n b r =>
    ⟨k, n, start, start + 1 + b.toPieces.length⟩ ::
      (spans (start + 1) b ++ spans (start + 1 + b.toPieces.length + 1) r)

theorem nested_toPieces (t : Template) : Nested t.toPieces := by
  induction t with
  | nil => exact .nil
  | leaf l r ih => exact .leaf l ih
  | block k n b r ihb ihr => exact .block k n ihb ihr

end Template

/-- The lists of pieces that nest are those that templates are written as. -/
theorem nested_iff (ps : List Piece) : Nested ps ↔ ∃ t : Template, t.toPieces = ps := by
  constructor
  · intro h
    induction h with
    | nil => exact ⟨.nil, rfl⟩
    | leaf l _ ih =>
      obtain ⟨t, rfl⟩ := ih
      exact ⟨.leaf l t, rfl⟩
    | block k n _ _ ihb ihr =>
      obtain ⟨b, rfl⟩ := ihb
      obtain ⟨r, rfl⟩ := ihr
      exact ⟨.block k n b r, rfl⟩
  · rintro ⟨t, rfl⟩
    exact t.nested_toPieces

end Stencil
