/-!
# Templates

A template is a forest: text, interpolations and inclusions of other templates stand beside *blocks*,
which are opened and closed by a pair of tags and hold a template of their own. The type `Template`
spells the forest as one inductive type, without a list of children inside it: a template is empty, or
a leaf followed by a template, or a block, its body, and the template that follows it. Recursion on
templates is then plain structural recursion with two recursive calls at a block.

`Template.outline` lists all parts in document order with the number of blocks around each, and the
names that a template mentions are read off that list.
-/

namespace Stencil

/-- The parts of a template that contain no other template. -/
inductive Leaf
  /-- Literal text, copied to the output unchanged. -/
  | text (value : String)
  /-- The value of a name, with markup characters escaped. -/
  | name (name : String)
  /-- The value of a name as it is. -/
  | raw (name : String)
  /-- The named template rendered in place. -/
  | inclusion (name : String)
  deriving DecidableEq, Repr, Inhabited

/-- The two kinds of block. -/
inductive BlockKind
  /-- Rendered once for each item of a sequence, else once if the value is not empty. -/
  | plain
  /-- Rendered once if the value is empty. -/
  | inverted
  deriving DecidableEq, Repr, Inhabited

/-- A template: its parts in document order, each block with its body. -/
inductive Template
  | nil
  | leaf (l : Leaf) (rest : Template)
  | block (kind : BlockKind) (name : String) (body rest : Template)
  deriving DecidableEq, Repr, Inhabited

/-- What stands at one place of a template: a leaf, or the head of a block. -/
inductive Item
  | leaf (l : Leaf)
  | block (kind : BlockKind) (name : String)
  deriving DecidableEq, Repr, Inhabited

namespace Item

/-- The name that a part looks up in the data, if it looks one up. -/
def lookedUp : Item → Option String
  | .leaf (.name n) => some n
  | .leaf (.raw n) => some n
  | .block _ n => some n
  | .leaf (.text _) => none
  | .leaf (.inclusion _) => none

/-- The name of the template that a part includes, if it includes one. -/
def included : Item → Option String
  | .leaf (.inclusion n) => some n
  | .leaf (.text _) => none
  | .leaf (.name _) => none
  | .leaf (.raw _) => none
  | .block _ _ => none

end Item

namespace Template

/-- The parts of `s` followed by the parts of `t`. -/
def append : Template → Template → Template
  | nil, t => t
  | leaf l r, t => leaf l (append r t)
  | block k n b r, t => block k n b (append r t)

instance : Append Template := ⟨append⟩

@[simp] theorem nil_append (t : Template) : nil ++ t = t := rfl

@[simp] theorem leaf_append (l : Leaf) (r t : Template) : leaf l r ++ t = leaf l (r ++ t) := rfl

@[simp] theorem block_append (k : BlockKind) (n : String) (b r t : Template) :
    block k n b r ++ t = block k n b (r ++ t) := rfl

@[simp] theorem append_nil (t : Template) : t ++ nil = t := by
  induction t with
  | nil => rfl
  | leaf l r ih => rw [leaf_append, ih]
  | block k n b r _ ih => rw [block_append, ih]

/-- The number of parts outside all blocks. -/
def length : Template → Nat
  | nil => 0
  | leaf _ r => length r + 1
  | block _ _ _ r => length r + 1

/-- The parts outside all blocks, each as a template of its own. -/
def parts : Template → List Template
  | nil => []
  | leaf l r => leaf l nil :: parts r
  | block k n b r => block k n b nil :: parts r

/-- The greatest number of blocks around a place of the template. -/
def height : Template → Nat
  | nil => 0
  | leaf _ r => height r
  | block _ _ b r => max (height b + 1) (height r)

/-- All parts in document order, a block before its body. -/
def items : Template → List Item
  | nil => []
  | leaf l r => .leaf l :: items r
  | block k n b r => .block k n :: (items b ++ items r)

/-- All parts in document order, each with the number of blocks around it, where `depth` blocks are
open already. -/
def outline (depth : Nat) : Template → List (Nat × Item)
  | nil => []
  | leaf l r => (depth, .leaf l) :: outline depth r
  | block k n b r => (depth, .block k n) :: (outline (depth + 1) b ++ outline depth r)

/-! ### Names -/

/-- The names that the template looks up in the data, in order of first mention. Names that occur in
the templates it includes are not counted. -/
def variableNames (t : Template) : List String := (t.items.filterMap Item.lookedUp).eraseDups

/-- The names of the templates that the template includes, in order of first mention. -/
def inclusions (t : Template) : List String := (t.items.filterMap Item.included).eraseDups

end Template

end Stencil
