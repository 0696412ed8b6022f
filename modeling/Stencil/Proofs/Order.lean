import Stencil.Compiled
import Stencil.Proofs.Delimiters
import Stencil.Proofs.Matching
import Stencil.Proofs.Runs

/-!
# The parts of a template come in the order of its source

Source is cut into chunks, and each chunk is looked at once. The template that is read from them is put together in
another order: a block is there only when its closing tag has been met, after all that it contains, and it is closed
from the inside out. This file says that nothing of that can be seen in the template. Listed in document order, a block
before its body, its parts are what the chunks contribute one by one (`Stencil.Template.items_eq_of_parse`): no part is
lost, none comes twice, and none changes its place.

What a chunk contributes to the list is said by `Stencil.Item.ofChunk`. Pieces are where the two sides meet: the parts
of a template are its pieces without those that close blocks (`Stencil.Template.items_eq_filterMap`), and so are the
parts that chunks stand for (`Stencil.Piece.bind_readAs`).

The walk that lists the parts takes a frame of the stack for each block that it goes into, while reading takes none. So
source may be read as a template that is too high for the walk. How high it may be is said exactly
(`Stencil.Template.runFrom_itemsIn_of_parse`). The names that a template mentions are told by that walk, with the same
limit (`Stencil.Template.runFrom_variablesIn`, `Stencil.Template.runFrom_inclusionsIn`).
-/

namespace Stencil

open Run

/-! ### Parts and pieces -/

/-- The part that a piece stands for, unless it closes a block. -/
def Piece.item? : Piece → Option Item
  | .leaf l => some (.leaf l)
  | .opening kind n => some (.block kind n)
  | .closing _ => none

/-- **The parts of a template are its pieces without those that close blocks.** -/
theorem Template.items_eq_filterMap (t : Template) : t.items = t.toPieces.filterMap Piece.item? := by
  induction t with
  | nil => rfl
  | leaf l r ih => rw [items, ih, toPieces, List.filterMap_cons_some (by rfl)]
  | block k n b r ihb ihr =>
    rw [items, ihb, ihr, toPieces, List.filterMap_cons_some (by rfl), List.filterMap_append,
      List.filterMap_cons_none (by rfl)]

/-- A chunk is read as the piece of the part that it stands for, if it stands for one. -/
theorem Piece.bind_readAs (number : Nat) (chunk : List Char) :
    (readAs number chunk).bind item? = Item.ofChunk number chunk := by
  rw [readAs]
  split
  · next hclosing =>
    obtain ⟨hnumber, hmark⟩ := hclosing
    obtain ⟨cs, rfl⟩ := List.head?_eq_some_iff.mp hmark
    rw [Item.ofChunk, if_pos hnumber]
    rfl
  · cases Item.ofChunk number chunk with
    | none => rfl
    | some i => cases i <;> rfl

/-! ### Reading keeps the order -/

namespace Template

/-- **The parts of a template are what the chunks of its source stand for, in their order.** -/
theorem items_eq_of_parse {s : String} {t : Template} (h : parse s = .ok t) :
    t.items = (chunks s.toList).zipIdx.filterMap fun c => Item.ofChunk c.2 c.1 := by
  calc t.items = t.toPieces.filterMap Piece.item? := t.items_eq_filterMap
    _ = (reading s.toList).filterMap Piece.item? := by rw [parse_eq_ok_iff.mp h, pieces_eq_reading]
    _ = (chunks s.toList).zipIdx.filterMap fun c => (Piece.readAs c.2 c.1).bind Piece.item? := List.filterMap_filterMap
    _ = (chunks s.toList).zipIdx.filterMap fun c => Item.ofChunk c.2 c.1 := by simp only [Piece.bind_readAs]

/-! ### Walking over a template -/

/-- **The walk lists all parts**, if there is a frame for each of the blocks that are inside each other. -/
theorem runFrom_itemsIn (t : Template) {stack : Stack} (hroom : ¬stack.Short t.height) (σ : RunState) :
    (t.itemsIn stack).runFrom σ = (.ok t.items, σ) := by
  induction t generalizing stack with
  | nil => rfl
  | leaf l rest ih =>
    rw [itemsIn, runFrom_bind_ok (ih hroom)]
    rfl
  | block kind name body rest ihbody ihrest =>
    have hbody : ¬stack.Short (1 + body.height) := fun h => hroom (h.mono (by rw [height]; omega))
    have hrest : ¬stack.Short rest.height := fun h => hroom (h.mono (by rw [height]; omega))
    rcases henter : (stack.enter 1).runFrom σ with ⟨f | left, τ⟩
    · obtain ⟨n, hstack, hn, -⟩ := Stack.of_enter_error henter
      exact absurd ⟨n, hstack, by omega⟩ hbody
    · obtain rfl := Stack.of_enter_ok henter
      have hinside := ihbody fun h => hbody (h.of_enter henter)
      rw [itemsIn, runFrom_bind_ok henter, runFrom_bind_ok hinside, runFrom_bind_ok (ihrest hrest)]
      rfl

/-- **The walk fails as a whole**, if there are more blocks inside each other than frames. -/
theorem runFrom_itemsIn_of_short (t : Template) {stack : Stack} (hshort : stack.Short t.height) (σ : RunState) :
    (t.itemsIn stack).runFrom σ = (.error .stackExhausted, σ) := by
  induction t generalizing stack with
  | nil =>
    obtain ⟨n, -, hn⟩ := hshort
    exact absurd hn (Nat.not_lt_zero n)
  | leaf l rest ih => rw [itemsIn, runFrom_bind_error (ih hshort)]
  | block kind name body rest ihbody ihrest =>
    by_cases hone : stack.Short 1
    · rw [itemsIn, runFrom_bind_error (hone.runFrom_enter σ)]
    rcases henter : (stack.enter 1).runFrom σ with ⟨f | left, τ⟩
    · obtain ⟨n, hstack, hn, -⟩ := Stack.of_enter_error henter
      exact absurd ⟨n, hstack, hn⟩ hone
    · obtain rfl := Stack.of_enter_ok henter
      rw [itemsIn, runFrom_bind_ok henter]
      by_cases hinside : left.Short body.height
      · rw [runFrom_bind_error (ihbody hinside)]
      · -- The body is walked over, so it is behind the block that there are too many blocks inside each other.
        have hbody : ¬stack.Short (1 + body.height) := fun h => hinside (h.left_of_enter henter)
        obtain ⟨n, hstack, hn⟩ := hshort
        have hrest : stack.Short rest.height := by
          refine ⟨n, hstack, ?_⟩
          have hfits : 1 + body.height ≤ n := Nat.le_of_not_lt fun h => hbody ⟨n, hstack, h⟩
          rw [height] at hn
          omega
        rw [runFrom_bind_ok (runFrom_itemsIn body hinside σ), runFrom_bind_error (ihrest hrest)]

/-- What is told of the parts of a template is told of those that the walk lists, and fails if the walk does. -/
theorem runFrom_itemsIn_map {α : Type} (t : Template) (f : List Item → α) (stack : Stack) (σ : RunState) :
    (¬stack.Short t.height → (do return f (← t.itemsIn stack) : Run α).runFrom σ = (.ok (f t.items), σ)) ∧
      (stack.Short t.height → (do return f (← t.itemsIn stack) : Run α).runFrom σ = (.error .stackExhausted, σ)) :=
  ⟨fun hroom => runFrom_bind_ok (t.runFrom_itemsIn hroom σ) _,
    fun hshort => runFrom_bind_error (t.runFrom_itemsIn_of_short hshort σ) _⟩

/-- The names that are told are those that the template looks up. -/
theorem runFrom_variablesIn (t : Template) (stack : Stack) (σ : RunState) :
    (¬stack.Short t.height → (t.variablesIn stack).runFrom σ = (.ok t.variableNames, σ)) ∧
      (stack.Short t.height → (t.variablesIn stack).runFrom σ = (.error .stackExhausted, σ)) :=
  t.runFrom_itemsIn_map _ stack σ

theorem runFrom_inclusionsIn (t : Template) (stack : Stack) (σ : RunState) :
    (¬stack.Short t.height → (t.inclusionsIn stack).runFrom σ = (.ok t.inclusions, σ)) ∧
      (stack.Short t.height → (t.inclusionsIn stack).runFrom σ = (.error .stackExhausted, σ)) :=
  t.runFrom_itemsIn_map _ stack σ

/-- **The walk over a template lists what the chunks of its source stand for, in their order**, if there is a frame for
each of the blocks that are inside each other. If there are fewer, then it fails, although the source has been read. -/
theorem runFrom_itemsIn_of_parse {s : String} {t : Template} (h : parse s = .ok t) (stack : Stack) (σ : RunState) :
    (¬stack.Short t.height → (t.itemsIn stack).runFrom σ =
        (.ok ((chunks s.toList).zipIdx.filterMap fun c => Item.ofChunk c.2 c.1), σ)) ∧
      (stack.Short t.height → (t.itemsIn stack).runFrom σ = (.error .stackExhausted, σ)) := by
  refine ⟨fun hroom => ?_, fun hshort => t.runFrom_itemsIn_of_short hshort σ⟩
  rw [t.runFrom_itemsIn hroom, items_eq_of_parse h]

/-- Source with a comment, an empty tag, a block inside a block of the same name, and a closing delimiter without
partner, after which text and tags change places. -/
def crossedSource : String :=
  "a\x7b\x7b#s\x7d\x7d\x7b\x7b!c\x7d\x7d\x7b\x7b^s\x7d\x7d\x7b\x7b\x7b x \x7d\x7d\x7d\x7b\x7b/s\x7d\x7d" ++
    "\x7b\x7b\x7d\x7db\x7b\x7b/ s\x7d\x7d\x7b\x7b> p\x7d\x7du\x7d\x7dv\x7b\x7bc"

/-- The template that the source is read as. -/
def crossed : Template :=
  .leaf (.text "a")
    (.block .plain "s" (.block .inverted "s" (.leaf (.raw "x") .nil) (.leaf (.text "b") .nil))
      (.leaf (.inclusion "p") (.leaf (.text "u") (.leaf (.name "v") (.leaf (.text "c") .nil)))))

/-- Both blocks stand before what they contain, and their closing tags, the comment and the empty tag leave nothing. The
walk takes two frames, and with one it fails. -/
theorem runFrom_itemsIn_of_parse_crossed :
    parse crossedSource = .ok crossed ∧
      crossed.items = [.leaf (.text "a"), .block .plain "s", .block .inverted "s", .leaf (.raw "x"),
        .leaf (.text "b"), .leaf (.inclusion "p"), .leaf (.text "u"), .leaf (.name "v"), .leaf (.text "c")] ∧
      (crossed.itemsIn (some 2)).runFrom ⟨.fresh, #[]⟩ =
        (.ok ((chunks crossedSource.toList).zipIdx.filterMap fun c => Item.ofChunk c.2 c.1), ⟨.fresh, #[]⟩) ∧
      (crossed.itemsIn (some 1)).runFrom ⟨.fresh, #[]⟩ = (.error .stackExhausted, ⟨.fresh, #[]⟩) := by
  have hparse : parse crossedSource = .ok crossed := by decide
  have hroom : ¬Stack.Short (some 2) crossed.height := by
    rintro ⟨n, hn, hshort⟩
    cases hn
    exact absurd hshort (by decide)
  exact ⟨hparse, rfl, (runFrom_itemsIn_of_parse hparse (some 2) _).1 hroom,
    (runFrom_itemsIn_of_parse hparse (some 1) _).2 ⟨1, rfl, by decide⟩⟩

/-! ### Source that can be read and not walked over -/

/-- Blocks inside each other. -/
def tower : Nat → Template
  | 0 => .nil
  | n + 1 => .block .plain "a" (tower n) .nil

/-- The tags of these blocks, first those that open them, then those that close them. -/
def towerSource (n : Nat) : String :=
  String.ofList ((List.replicate n "{{#a}}".toList).flatten ++
    (List.replicate n "{{/a}}".toList).flatten)

theorem height_tower (n : Nat) : (tower n).height = n := by
  induction n with
  | zero => rfl
  | succ n ih => rw [tower, height, ih, height, Nat.max_eq_left (Nat.zero_le _)]

theorem toPieces_tower (n : Nat) :
    (tower n).toPieces = List.replicate n (.opening .plain "a") ++ List.replicate n (.closing "a") := by
  induction n with
  | zero => rfl
  | succ n ih => rw [tower, toPieces, ih, toPieces, List.replicate_succ, List.replicate_succ']; simp

/-- The tags that open and close the blocks, as lexemes. -/
def towerLexemes (n : Nat) : List Lexeme :=
  List.replicate n (.tag ['#', 'a'] false) ++ List.replicate n (.tag ['/', 'a'] false)

theorem mem_towerLexemes {n : Nat} {l : Lexeme} (h : l ∈ towerLexemes n) :
    l = .tag ['#', 'a'] false ∨ l = .tag ['/', 'a'] false := by
  rw [towerLexemes, List.mem_append, List.mem_replicate, List.mem_replicate] at h
  exact h.imp And.right And.right

/-- Source is read as blocks inside each other, however many there are. -/
theorem parse_towerSource (n : Nat) : parse (towerSource n) = .ok (tower n) := by
  have hsound : ∀ l ∈ towerLexemes n, l.IsSound := by
    intro l hl
    rcases mem_towerLexemes hl with rfl | rfl <;> decide
  have hchained : IsChained (towerLexemes n) := isChained_of_tags fun l hl => by
    rcases mem_towerLexemes hl with rfl | rfl <;> exact ⟨_, _, rfl⟩
  have hprint : Lexeme.printAll (towerLexemes n) = (towerSource n).toList := by
    rw [towerSource, String.toList_ofList, Lexeme.printAll, towerLexemes, List.flatMap_append, List.flatMap_replicate,
      List.flatMap_replicate]
    rfl
  have hpieces : (towerLexemes n).flatMap Lexeme.pieces = (tower n).toPieces := by
    have hopening : (Lexeme.tag ['#', 'a'] false).pieces = [.opening .plain "a"] := by decide
    have hclosing : (Lexeme.tag ['/', 'a'] false).pieces = [.closing "a"] := by decide
    rw [towerLexemes, List.flatMap_append, List.flatMap_replicate, List.flatMap_replicate, hopening, hclosing,
      List.flatten_replicate_singleton, List.flatten_replicate_singleton, toPieces_tower]
  refine parse_of_toPieces ?_
  rw [← hprint, pieces_printAll hsound hchained, hpieces]

/-- **Source may be read as a template that is too high to be walked over.** -/
theorem exists_items_lost :
    parse (towerSource 1001) = .ok (tower 1001) ∧
      ((tower 1001).itemsIn Stack.ordinary).runFrom ⟨.fresh, #[]⟩ = (.error .stackExhausted, ⟨.fresh, #[]⟩) := by
  refine ⟨parse_towerSource 1001, runFrom_itemsIn_of_short _ ⟨1000, rfl, ?_⟩ _⟩
  rw [height_tower]
  decide

end Template

end Stencil
