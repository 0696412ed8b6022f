import Stencil.Proofs.Joining

/-!
# Comments are transparent

A comment may stand wherever text may: outside all blocks or inside some, and where tags do not nest at all. A comment
tag is no piece of a template. So all that it can do is to divide the text that it stands in, and that makes no
difference to anything but the number of parts.

* Which opening and closing tags there are is the same with the comment and without, and so the first fault among them
  is (`Stencil.firstMisnesting_append_congr`).
* Where the tags nest, the template with the comment has two texts next to each other in the place of one
  (`Stencil.Template.Divides`), and both templates are rendered alike (`Stencil.Template.Divides.renderParts_eq`).

What is asked of the text around the comment is what is asked of the border between two sources
(`Stencil.chunks_append`), which is used twice here: in front of the comment, and where the comment is absent.
-/

namespace Stencil

/-! ### Leaves and the first fault -/

/-- What comes after pieces counts only for what it does to the blocks that they leave open. -/
theorem firstMisnesting_append_congr (ps : List Piece) {qs qs' : List Piece}
    (h : ∀ stack, firstMisnesting stack qs = firstMisnesting stack qs') (stack : List String) :
    firstMisnesting stack (ps ++ qs) = firstMisnesting stack (ps ++ qs') := by
  induction ps generalizing stack with
  | nil => exact h stack
  | cons p ps ih =>
    cases p with
    | leaf l => simp only [List.cons_append, firstMisnesting, ih]
    | opening k n => simp only [List.cons_append, firstMisnesting, ih]
    | closing n => cases stack <;> simp only [List.cons_append, firstMisnesting, ih]

/-- Text makes no difference to the first fault. -/
theorem firstMisnesting_ofText (cs : List Char) (ps : List Piece) (stack : List String) :
    firstMisnesting stack ((Piece.ofText cs).toList ++ ps) = firstMisnesting stack ps := by
  cases cs with
  | nil => rfl
  | cons c cs => simp only [Piece.ofText, Option.toList_some, List.singleton_append, firstMisnesting]

namespace Template

/-! ### Divided text -/

/-- **Whether a template has two texts next to each other, at some place, where another one has the two as one.** -/
inductive Divides : Template → Template → Prop
  | here (s s' : String) (rest : Template) :
    Divides (leaf (.text s) (leaf (.text s') rest)) (leaf (.text (s ++ s')) rest)
  | leaf {t u : Template} (l : Leaf) : Divides t u → Divides (leaf l t) (leaf l u)
  | body {t u : Template} (k : BlockKind) (n : String) (rest : Template) :
    Divides t u → Divides (block k n t rest) (block k n u rest)
  | rest {t u : Template} (k : BlockKind) (n : String) (body : Template) :
    Divides t u → Divides (block k n body t) (block k n body u)

/-- **Divided text is rendered as the text.** -/
theorem Divides.renderParts_eq {g : Graph} {t u : Template} (h : Divides t u)
    (inclusion : String → Scope → Stack → Run String) : renderParts g inclusion t = renderParts g inclusion u := by
  induction h with
  | here s s' rest =>
    funext scope stack
    simp only [renderParts, renderLeaf, bind_assoc, pure_bind, String.append_assoc]
  | leaf l _ ih =>
    funext scope stack
    rw [renderParts, renderParts, ih]
  | body k n rest _ ih =>
    funext scope stack
    rw [renderParts, renderParts, ih]
  | rest k n body _ ih =>
    funext scope stack
    rw [renderParts, renderParts, ih]

/-- Where two texts are next to each other among the pieces of a template, there is a template that has them as one. -/
theorem exists_divides {t : Template} {before after : List Piece} {s s' : String}
    (h : t.toPieces = before ++ .leaf (.text s) :: .leaf (.text s') :: after) :
    ∃ u, Divides t u ∧ u.toPieces = before ++ .leaf (.text (s ++ s')) :: after := by
  induction t generalizing before after with
  | nil => exact absurd h (by simp [toPieces])
  | leaf l r ih =>
    rw [toPieces] at h
    cases before with
    | nil =>
      obtain ⟨hl, hr⟩ := List.cons.inj h
      obtain ⟨r', rfl, rfl⟩ := exists_leaf_of_toPieces hr
      cases hl
      exact ⟨_, .here s s' r', rfl⟩
    | cons p before =>
      obtain ⟨rfl, hr⟩ := List.cons.inj h
      obtain ⟨u, hu, hpieces⟩ := ih hr
      exact ⟨leaf l u, .leaf l hu, by rw [toPieces, hpieces]; rfl⟩
  | block k n b r ihbody ihrest =>
    rw [toPieces] at h
    cases before with
    | nil => exact absurd (List.cons.inj h).1 (by simp)
    | cons p before =>
      obtain ⟨rfl, hinside⟩ := List.cons.inj h
      -- The two texts are on the same side of the closing tag, which is neither of them.
      rcases List.append_eq_append_iff.mp hinside with ⟨inner, rfl, hclosing⟩ | ⟨inner, hbody, htexts⟩
      · cases inner with
        | nil => exact absurd (List.cons.inj hclosing).1 (by simp)
        | cons p inner =>
          obtain ⟨rfl, hr⟩ := List.cons.inj hclosing
          obtain ⟨u, hu, hpieces⟩ := ihrest hr
          exact ⟨block k n b u, .rest k n b hu, by rw [toPieces, hpieces]; simp⟩
      · rcases inner with _ | ⟨_, _ | ⟨_, inner⟩⟩
        · exact absurd (List.cons.inj htexts).1 (by simp)
        · exact absurd (List.cons.inj (List.cons.inj htexts).2).1 (by simp)
        · simp only [List.cons_append, List.cons.injEq] at htexts
          obtain ⟨rfl, rfl, rfl⟩ := htexts
          obtain ⟨u, hu, hpieces⟩ := ihbody hbody
          exact ⟨block k n u r, .body k n r hu, by rw [toPieces, hpieces]; simp⟩

/-- Templates that differ in nothing but in whether a text is divided are rendered alike. -/
theorem renderParts_eq_of_divided {t u : Template} {before after : List Piece} {last first : List Char}
    (ht : t.toPieces = before ++ ((Piece.ofText last).toList ++ ((Piece.ofText first).toList ++ after)))
    (hu : u.toPieces = before ++ ((Piece.ofText (last ++ first)).toList ++ after)) (g : Graph)
    (inclusion : String → Scope → Stack → Run String) : renderParts g inclusion t = renderParts g inclusion u := by
  cases last with
  | nil => rw [toPieces_injective (ht.trans hu.symm)]
  | cons c last =>
    cases first with
    | nil =>
      rw [List.append_nil] at hu
      rw [toPieces_injective (ht.trans hu.symm)]
    | cons d first =>
      obtain ⟨u', hdivides, hu'⟩ := exists_divides ht
      rw [← String.ofList_append] at hu'
      obtain rfl : u' = u := toPieces_injective (hu'.trans hu.symm)
      exact hdivides.renderParts_eq inclusion

/-- Source is refused for the first fault among its pieces. -/
theorem parse_eq_error_iff {s : String} {m : Misnesting} :
    parse s = .error m ↔ firstMisnesting [] (pieces s.toList) = some m := by
  refine ⟨fun h => ?_, parse_eq_error⟩
  cases hwalk : firstMisnesting [] (pieces s.toList) with
  | some m' => rw [← Except.error.inj ((parse_eq_error hwalk).symm.trans h)]
  | none =>
    obtain ⟨t, ht⟩ := exists_parse_eq_ok_iff.mpr (firstMisnesting_eq_none_iff.mp hwalk)
    cases ht.symm.trans h

end Template

/-! ### The border with a comment -/

theorem getLast?_cons_ne_some {c d : Char} {cs : List Char} (hc : c ≠ d) (hcs : cs.getLast? ≠ some d) :
    (c :: cs).getLast? ≠ some d := by
  cases cs with
  | nil => simpa using hc
  | cons e cs => rwa [List.getLast?_cons_cons]

/-- **The pieces around a comment** are those around the border without it, but for the text at the border. -/
theorem exists_pieces_comment {u v c : List Char} (houtside : Odd (chunks u).length)
    (hlast : ∀ last ∈ (chunks u).getLast?, last.getLast? ≠ some '{') (hv : v.head? ≠ some '}')
    (hc : (Lexeme.tag ('!' :: c) false).IsSound) :
    ∃ before last first after, pieces (u ++ v) = before ++ ((Piece.ofText (last ++ first)).toList ++ after) ∧
      pieces (u ++ ((Lexeme.tag ('!' :: c) false).print ++ v)) =
        before ++ ((Piece.ofText last).toList ++ ((Piece.ofText first).toList ++ after)) := by
  obtain ⟨before, last, hu, heven⟩ := exists_last_chunk houtside
  obtain ⟨first, after, hv'⟩ : ∃ first after, chunks v = first :: after :=
    List.exists_cons_of_ne_nil (cutAtOpening_ne_nil _)
  have hborder : last.getLast? ≠ some '{' := hlast last (by rw [hu, List.getLast?_concat]; rfl)
  have hcomment : chunks ((Lexeme.tag ('!' :: c) false).print ++ v) = [] :: ('!' :: c) :: first :: after := by
    rw [chunks_tag hc v fun _ => hv, hv']
  refine ⟨Piece.ofChunks false before, last, first, Piece.ofChunks true after, ?_, ?_⟩
  · rw [pieces, chunks_append hu hv' hborder fun _ => hv, Piece.ofChunks_append, heven]
    rfl
  · have hopening : ((Lexeme.tag ('!' :: c) false).print ++ v).head? ≠ some '}' := by
      simp [Lexeme.print]
    rw [pieces, chunks_append hu hcomment hborder fun _ => hopening, Piece.ofChunks_append, heven, List.append_nil]
    rfl

namespace Template

/-- **A comment makes no difference.** The source in front of it has to end outside a tag, no brace may be left over on
either side of it, and its text must not contain delimiters or end in a brace. Then the source with the comment is
refused for the same reason as the source without it, or both are read, and the two templates are rendered alike: not
only is the same shown, the whole computation is the same, in every setting and scope and with every stack. -/
theorem parse_comment {a b c : String} (houtside : Odd (chunks a.toList).length)
    (hlast : ∀ last ∈ (chunks a.toList).getLast?, last.getLast? ≠ some '{') (hb : b.toList.head? ≠ some '}')
    (hc : hasDelimiter c.toList = false) (hopening : c.toList.getLast? ≠ some '{')
    (hclosing : c.toList.getLast? ≠ some '}') :
    match parse (a ++ "\x7b\x7b!" ++ c ++ "\x7d\x7d" ++ b), parse (a ++ b) with
    | .ok t, .ok u => ∀ (setting : Setting) (scope : Scope) (stack : Stack),
        setting.render t scope stack = setting.render u scope stack
    | .error m, .error m' => m = m'
    | _, _ => False := by
  have hsound : (Lexeme.tag ('!' :: c.toList) false).IsSound := by
    exact ⟨hc, getLast?_cons_ne_some (by decide) hopening, getLast?_cons_ne_some (by decide) hclosing⟩
  have hsource : (a ++ "\x7b\x7b!" ++ c ++ "\x7d\x7d" ++ b).toList =
      a.toList ++ ((Lexeme.tag ('!' :: c.toList) false).print ++ b.toList) := by
    simp [Lexeme.print]
  obtain ⟨before, last, first, after, hplain, hcomment⟩ := exists_pieces_comment houtside hlast hb hsound
  rw [← String.toList_append] at hplain
  rw [← hsource] at hcomment
  have hwalk : firstMisnesting [] (pieces (a ++ "\x7b\x7b!" ++ c ++ "\x7d\x7d" ++ b).toList) =
      firstMisnesting [] (pieces (a ++ b).toList) := by
    rw [hplain, hcomment]
    refine firstMisnesting_append_congr before (fun stack => ?_) []
    rw [firstMisnesting_ofText, firstMisnesting_ofText, firstMisnesting_ofText]
  cases hread : parse (a ++ b) with
  | error m =>
    rw [parse_eq_error (hwalk.trans (parse_eq_error_iff.mp hread))]
  | ok u =>
    obtain ⟨t, ht⟩ : ∃ t, parse (a ++ "\x7b\x7b!" ++ c ++ "\x7d\x7d" ++ b) = .ok t := by
      rw [exists_parse_eq_ok_iff, ← firstMisnesting_eq_none_iff, hwalk, firstMisnesting_eq_none_iff,
        ← exists_parse_eq_ok_iff]
      exact ⟨u, hread⟩
    rw [ht]
    intro setting scope stack
    have hrender := renderParts_eq_of_divided ((parse_eq_ok_iff.mp ht).trans hcomment)
      ((parse_eq_ok_iff.mp hread).trans hplain) setting.graph
    exact congrFun (congrFun (hrender _) scope) stack

/-- A comment inside a block, between single braces. -/
theorem parse_comment_braced :
    let a := "\x7b\x7b#x\x7d\x7da\x7d"
    let c := "\x7b c \x7d c"
    let b := "\x7bb\x7b\x7b/x\x7d\x7d"
    let body : Template := .leaf (.text "a\x7d") (.leaf (.text "\x7bb") .nil)
    Odd (chunks a.toList).length ∧ (∀ last ∈ (chunks a.toList).getLast?, last.getLast? ≠ some '{') ∧
      b.toList.head? ≠ some '}' ∧ hasDelimiter c.toList = false ∧ c.toList.getLast? ≠ some '{' ∧
      c.toList.getLast? ≠ some '}' ∧
      parse (a ++ "\x7b\x7b!" ++ c ++ "\x7d\x7d" ++ b) = .ok (.block .plain "x" body .nil) ∧
      parse (a ++ b) = .ok (.block .plain "x" (.leaf (.text "a\x7d\x7bb") .nil) .nil) ∧
      ∀ (setting : Setting) (scope : Scope) (stack : Stack),
        setting.render (.block .plain "x" body .nil) scope stack =
          setting.render (.block .plain "x" (.leaf (.text "a\x7d\x7bb") .nil) .nil) scope stack := by
  intro a c b body
  have houtside : Odd (chunks a.toList).length := by decide
  have hlast : ∀ last ∈ (chunks a.toList).getLast?, last.getLast? ≠ some '{' := by decide
  have hb : b.toList.head? ≠ some '}' := by decide
  have hc : hasDelimiter c.toList = false := by decide
  have hopening : c.toList.getLast? ≠ some '{' := by decide
  have hclosing : c.toList.getLast? ≠ some '}' := by decide
  have hcomment : parse (a ++ "\x7b\x7b!" ++ c ++ "\x7d\x7d" ++ b) = .ok (.block .plain "x" body .nil) := by decide
  have hplain : parse (a ++ b) = .ok (.block .plain "x" (.leaf (.text "a\x7d\x7bb") .nil) .nil) := by decide
  have halike := parse_comment houtside hlast hb hc hopening hclosing
  rw [hcomment, hplain] at halike
  exact ⟨houtside, hlast, hb, hc, hopening, hclosing, hcomment, hplain, halike⟩

end Template

end Stencil
