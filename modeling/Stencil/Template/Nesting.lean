import Stencil.Template.Source

/-!
# Matching opening and closing tags

The tags that open and close blocks have to nest like brackets. This module separates the question
whether they do from the construction of the template.

* `firstMisnesting` walks over the pieces from left to right with the names of the open blocks and
  reports the first closing tag that does not fit, or else the innermost block that is never closed.
* `levels` builds the template from right to left, and `forest` is the outermost level that it ends
  with. It keeps the templates of all levels that an opening tag further left will close off: a closing
  tag starts a new level, an opening tag turns the innermost level into the body of a block. The names
  on closing tags are not looked at.

`Template.parse` is the two together: a template if the tags nest, the reason if they do not.
-/

namespace Stencil

/-- Why the opening and closing tags of a template do not nest. -/
inductive Misnesting
  /-- A closing tag stands where no block is open. -/
  | unopened (name : String)
  /-- A closing tag names another block than the innermost open one. -/
  | mismatched (name closedBy : String)
  /-- The source ends while a block is open. -/
  | unfinished (name : String)
  deriving DecidableEq, Repr, Inhabited

/-- The first place where the tags among the pieces fail to nest, given the names of the blocks open
before them, innermost first. -/
def firstMisnesting : List String → List Piece → Option Misnesting
  | [], [] => none
  | n :: _, [] => some (.unfinished n)
  | stack, .leaf _ :: ps => firstMisnesting stack ps
  | stack, .opening _ n :: ps => firstMisnesting (n :: stack) ps
  | [], .closing n :: _ => some (.unopened n)
  | m :: stack, .closing n :: ps =>
    if m = n then firstMisnesting stack ps else some (.mismatched m n)

/-- The levels of the template that a list of pieces ends: the first is the one in which the pieces
begin, each further one is the level left by a closing tag whose opening tag is not among the pieces. -/
def levels : List Piece → List Template
  | [] => [.nil]
  | .leaf l :: ps =>
    match levels ps with
    | [] => []
    | t :: ts => .leaf l t :: ts
  | .closing _ :: ps => .nil :: levels ps
  | .opening k n :: ps =>
    match levels ps with
    | body :: rest :: ts => .block k n body rest :: ts
    | [body] => [.block k n body .nil]
    | [] => []

/-- The template whose pieces are given, which must nest. -/
def forest (ps : List Piece) : Template := (levels ps).headD .nil

namespace Template

/-- Read template source: the template, or why its blocks do not nest. -/
def parse (source : String) : Except Misnesting Template :=
  let ps := pieces source.toList
  match firstMisnesting [] ps with
  | some m => .error m
  | none => .ok (forest ps)

end Template

end Stencil
