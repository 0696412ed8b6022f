import Stencil.Proofs.Delimiters
import Stencil.Proofs.Matching
import Stencil.Proofs.Trimming

/-!
# Every spelling is read back

A template can be spelled in many ways. Whichever is chosen, reading it gives the template back
(`Stencil.Template.parse_of_spelled`): blanks around names, comments, empty tags and the choice between two and
three closing braces leave no trace.

The proof has two halves that meet at the pieces. The lexemes of a legible spelling are told apart in the
source, so its pieces are those of the lexemes (`Stencil.pieces_printAll`). By induction on the spelling, these
are the pieces of the template (`Stencil.flatMap_pieces_of_spelled`).
-/

namespace Stencil

/-! ### Clean templates -/

namespace Template

theorem isClean_leaf {l : Leaf} {rest : Template} :
    IsClean (.leaf l rest) ↔ (Item.leaf l).IsClean ∧ rest.IsClean := by
  simp [IsClean, items]

theorem isClean_block {kind : BlockKind} {n : String} {body rest : Template} :
    IsClean (.block kind n body rest) ↔ IsCleanName n ∧ body.IsClean ∧ rest.IsClean := by
  simp only [IsClean, items, List.forall_mem_cons, List.forall_mem_append]
  rfl

end Template

/-! ### Padded names -/

theorem isPadded_self (n : String) : IsPadded n n.toList :=
  ⟨[], [], by simp, by simp, by simp⟩

theorem isPadded_spaces (n : String) : IsPadded n (' ' :: (n.toList ++ [' '])) := by
  have hspace : ∀ c ∈ [' '], Text.isBlank c = true := by
    intro c hc
    rw [List.mem_singleton.mp hc]
    rfl
  exact ⟨[' '], [' '], hspace, hspace, rfl⟩

/-! ### The pieces of a spelling -/

/-- The name in a padded body. -/
theorem nameOf_of_isPadded {n : String} {cs : List Char} (hcs : IsPadded n cs) (hn : IsCleanName n) :
    Piece.nameOf cs = n := by
  obtain ⟨before, after, hb, ha, rfl⟩ := hcs
  exact Piece.nameOf_append hb ha hn.1

/-- A tag without a mark interpolates the name that is its whole body. -/
theorem ofTag_of_isUnmarked {cs : List Char} (h : IsUnmarked cs) :
    Piece.ofTag cs = some (.leaf (.name (Piece.nameOf cs))) := by
  obtain ⟨c, ds, rfl, hc⟩ := h
  simp only [tagMarks, List.mem_cons, List.not_mem_nil, or_false, not_or] at hc
  obtain ⟨h1, h2, h3, h4, h5, h6, h7⟩ := hc
  rw [Piece.ofTag] <;> rintro rfl <;> contradiction

theorem ofText_toList {s : String} (h : s ≠ "") : Piece.ofText s.toList = some (.leaf (.text s)) := by
  cases hs : s.toList with
  | nil => exact absurd (String.toList_inj.mp hs) h
  | cons c cs => rw [Piece.ofText, ← hs, String.ofList_toList]

/-- **A spelling has the pieces of its template.** Each rule of spelling adds the pieces of its lexemes, which
are none for comments and empty tags. -/
theorem flatMap_pieces_of_spelled {t : Template} {ls : List Lexeme} (h : Spelled t ls) (ht : t.IsClean) :
    ls.flatMap Lexeme.pieces = t.toPieces := by
  induction h with
  | nil => rfl
  | comment cs long _ ih => exact ih ht
  | empty long _ ih => exact ih ht
  | text s _ ih =>
    obtain ⟨⟨hs, -⟩, hrest⟩ := Template.isClean_leaf.mp ht
    rw [List.flatMap_cons, ih hrest, Lexeme.pieces, ofText_toList hs]
    rfl
  | name long hcs hpad _ ih =>
    obtain ⟨hn, hrest⟩ := Template.isClean_leaf.mp ht
    rw [List.flatMap_cons, ih hrest, Lexeme.pieces, ofTag_of_isUnmarked hcs, nameOf_of_isPadded hpad hn]
    rfl
  | raw long hmark hpad _ ih =>
    obtain ⟨hn, hrest⟩ := Template.isClean_leaf.mp ht
    rw [List.flatMap_cons, ih hrest, Lexeme.pieces]
    rcases hmark with rfl | rfl
    · rw [Piece.ofTag, nameOf_of_isPadded hpad hn]
      rfl
    · rw [Piece.ofTag, nameOf_of_isPadded hpad hn]
      rfl
  | inclusion long hpad _ ih =>
    obtain ⟨hn, hrest⟩ := Template.isClean_leaf.mp ht
    rw [List.flatMap_cons, ih hrest, Lexeme.pieces, Piece.ofTag, nameOf_of_isPadded hpad hn]
    rfl
  | block kind _ _ hopen hclose _ _ ihbody ihrest =>
    obtain ⟨hn, hbody, hrest⟩ := Template.isClean_block.mp ht
    rw [List.flatMap_cons, List.flatMap_append, List.flatMap_cons, ihbody hbody, ihrest hrest]
    cases kind with
    | plain =>
      simp [Lexeme.pieces, BlockKind.mark, Piece.ofTag, nameOf_of_isPadded hopen hn,
        nameOf_of_isPadded hclose hn, Template.toPieces]
    | inverted =>
      simp [Lexeme.pieces, BlockKind.mark, Piece.ofTag, nameOf_of_isPadded hopen hn,
        nameOf_of_isPadded hclose hn, Template.toPieces]

namespace Template

/-- **Reading undoes spelling**: source that legibly spells a clean template is read as that template. -/
theorem parse_of_spelled {t : Template} {ls : List Lexeme} (hspelled : Spelled t ls) (hlegible : IsLegible ls)
    (hclean : t.IsClean) : parse (String.ofList (Lexeme.printAll ls)) = .ok t := by
  refine parse_of_toPieces ?_
  rw [String.toList_ofList, pieces_printAll hlegible.sound hlegible.chained,
    flatMap_pieces_of_spelled hspelled hclean]

/-- A spelling with braces at the borders: text that begins with one at the start of the source and after a long
delimiter, text that ends in one at the end, and two texts with a comment between them. -/
theorem parse_of_spelled_braces :
    parse (String.ofList (Lexeme.printAll [.text ['}', 'a'], .tag ['!', 'c'] false, .text ['b'],
      .tag ['#', ' ', 's', ' '] true, .tag [' ', 'x', ' '] true, .text ['}', 'y'], .tag ['/', 's'] false,
      .text ['z', '{']])) =
      .ok (.leaf (.text "\x7da") (.leaf (.text "b")
        (.block .plain "s" (.leaf (.name "x") (.leaf (.text "\x7dy") .nil))
          (.leaf (.text "z\x7b") .nil)))) := by
  have hbody : Spelled (.leaf (.name "x") (.leaf (.text "\x7dy") .nil))
      [.tag [' ', 'x', ' '] true, .text ['}', 'y']] :=
    .name true ⟨' ', ['x', ' '], rfl, by decide⟩ (isPadded_spaces "x") (.text "\x7dy" .nil)
  have hblock : Spelled (.block .plain "s" (.leaf (.name "x") (.leaf (.text "\x7dy") .nil))
        (.leaf (.text "z\x7b") .nil))
      (.tag ['#', ' ', 's', ' '] true ::
        ([.tag [' ', 'x', ' '] true, .text ['}', 'y']] ++ [.tag ['/', 's'] false, .text ['z', '{']])) :=
    .block .plain true false (isPadded_spaces "s") (isPadded_self "s") hbody (.text "z\x7b" .nil)
  exact parse_of_spelled (.text "\x7da" (.comment ['c'] false (.text "b" hblock)))
    ⟨by decide, by decide, by decide⟩ (by decide)

end Template

end Stencil
