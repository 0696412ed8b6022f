import Stencil.Proofs.Chunks
import Stencil.Proofs.Inlining
import Stencil.Proofs.Matching
import Mathlib.Algebra.Ring.Parity
import Mathlib.Data.Nat.Bits

/-!
# One source after another

Where the source of one template is put in front of that of another, what is read is the one template followed by the
other. Both passes over the source go from left to right and take the longest delimiter, so this is a question of what
stands at the border. Three things can go wrong there, and the main theorem excludes each of them.

* Closing braces on both sides of the border can make a delimiter together, or a longer one
  (`Stencil.unifyDelimiters_append_of_border`).
* An opening brace that is left over at the end of the first source can do the same
  (`Stencil.cutAtOpening_append_of_border`).
* A tag can be open at the border; then text and tags change places in the second source. The first source ends outside
  a tag if it has an odd number of chunks (`Stencil.Piece.ofChunks_append`).

What remains of the border is one chunk of text, the last one of the first source together with the first one of the
second. `Stencil.Template.Joined` says how the two templates make up the third. Rendering that is rendering the one and
then the other (`Stencil.Template.parse_append`).
-/

namespace Stencil

/-! ### The border -/

theorem getLast?_cons_of_getLast? {c d : Char} {cs : List Char} (h : cs.getLast? = some d) :
    (c :: cs).getLast? = some d := by
  rw [List.getLast?_cons, h, Option.getD_some]

/-- A text begins with what follows it only if it is empty. -/
theorem head?_append_ne {c : Char} {u v : List Char} (hu : u.head? ≠ some c) (hv : u = [] → v.head? ≠ some c) :
    (u ++ v).head? ≠ some c := by
  cases u with
  | nil => exact hv rfl
  | cons d u => exact hu

/-- **The first pass takes two sources apart from each other**, unless closing braces meet at the border. -/
theorem unifyDelimiters_append_of_border {u v : List Char} (h : u.getLast? = some '}' → v.head? ≠ some '}') :
    unifyDelimiters (u ++ v) = unifyDelimiters u ++ unifyDelimiters v := by
  induction u using unifyDelimiters.induct with
  | case1 cs ih =>
    have hrest : unifyDelimiters (cs ++ v) = unifyDelimiters cs ++ unifyDelimiters v := by
      refine ih fun hlast => h ?_
      exact getLast?_cons_of_getLast? (getLast?_cons_of_getLast? (getLast?_cons_of_getLast? hlast))
    simp only [List.cons_append, unifyDelimiters, hrest]
  | case2 cs hshort ih =>
    have hrest : unifyDelimiters (cs ++ v) = unifyDelimiters cs ++ unifyDelimiters v :=
      ih fun hlast => h (getLast?_cons_of_getLast? (getLast?_cons_of_getLast? hlast))
    have hcs : cs.head? ≠ some '}' := by
      intro hhead
      obtain ⟨ds, hds⟩ := List.head?_eq_some_iff.mp hhead
      exact hshort ds hds
    have hborder : (cs ++ v).head? ≠ some '}' := by
      refine head?_append_ne hcs ?_
      rintro rfl
      exact h rfl
    simp only [List.cons_append, unifyDelimiters_short hborder, unifyDelimiters_short hcs, hrest]
  | case3 c cs hlong hshort ih =>
    have hrest : unifyDelimiters (cs ++ v) = unifyDelimiters cs ++ unifyDelimiters v :=
      ih fun hlast => h (getLast?_cons_of_getLast? hlast)
    by_cases hc : c = '}'
    · subst hc
      have hcs : cs.head? ≠ some '}' := by
        intro hhead
        obtain ⟨ds, hds⟩ := List.head?_eq_some_iff.mp hhead
        exact hshort ds rfl hds
      have hborder : (cs ++ v).head? ≠ some '}' := by
        refine head?_append_ne hcs ?_
        rintro rfl
        exact h rfl
      simp only [List.cons_append, unifyDelimiters_brace hborder, unifyDelimiters_brace hcs, hrest]
    · simp only [List.cons_append, unifyDelimiters_cons_of_ne hc, hrest]
  | case4 => rfl

/-- **The second pass takes two texts apart from each other** and puts the parts at the border together, unless the
first text leaves an opening brace there. -/
theorem cutAtOpening_append_of_border {u v : List Char} {before after : List (List Char)} {last first : List Char}
    (hu : cutAtOpening u = before ++ [last]) (hlast : last.getLast? ≠ some '{') (hv : cutAtOpening v = first :: after) :
    cutAtOpening (u ++ v) = before ++ (last ++ first) :: after := by
  induction u using cutAtOpening.induct generalizing before last with
  | case1 cs ih =>
    rw [cutAtOpening] at hu
    cases before with
    | nil => exact absurd (List.cons.inj hu).2 (cutAtOpening_ne_nil cs)
    | cons d before =>
      obtain ⟨rfl, hcs⟩ := List.cons.inj hu
      rw [List.cons_append, List.cons_append, cutAtOpening, ih hcs hlast]
      rfl
  | case2 c cs _ hcs => exact absurd hcs (cutAtOpening_ne_nil cs)
  | case3 c cs hopening d ds hcs ih =>
    rw [cutAtOpening, hcs] at hu
    · have hborder : c = '{' → (cs ++ v).head? ≠ some '{' := by
        rintro rfl
        refine head?_append_ne ?_ ?_
        · intro hhead
          obtain ⟨es, hes⟩ := List.head?_eq_some_iff.mp hhead
          exact hopening es rfl hes
        · -- A text that is nothing but an opening brace leaves it at the border.
          rintro rfl
          obtain ⟨rfl, rfl⟩ := List.cons.inj hcs
          obtain rfl : ['{'] = last := by simpa using congrArg List.getLast? hu
          exact absurd rfl hlast
      cases before with
      | nil =>
        obtain ⟨rfl, rfl⟩ := List.cons.inj hu
        have hd : d.getLast? ≠ some '{' := fun hd => hlast (getLast?_cons_of_getLast? hd)
        have hcut : cutAtOpening cs = [] ++ [d] := hcs
        have hrest : cutAtOpening (cs ++ v) = (d ++ first) :: after := ih hcut hd
        exact cutAtOpening_cons hborder hrest
      | cons e before =>
        obtain ⟨rfl, rfl⟩ := List.cons.inj hu
        have hcut : cutAtOpening cs = (d :: before) ++ [last] := hcs
        have hrest : cutAtOpening (cs ++ v) = d :: (before ++ (last ++ first) :: after) := ih hcut hlast
        exact cutAtOpening_cons hborder hrest
    · exact hopening
  | case4 =>
    rw [cutAtOpening] at hu
    cases before with
    | nil =>
      obtain ⟨rfl, -⟩ := List.cons.inj hu
      exact hv
    | cons d before => exact absurd (List.cons.inj hu).2 (by simp)

/-- **The chunks of one source after another** are the chunks of both, with the chunk at the border shared. -/
theorem chunks_append {u v : List Char} {before after : List (List Char)} {last first : List Char}
    (hu : chunks u = before ++ [last]) (hv : chunks v = first :: after) (hlast : last.getLast? ≠ some '{')
    (hborder : u.getLast? = some '}' → v.head? ≠ some '}') :
    chunks (u ++ v) = before ++ (last ++ first) :: after := by
  rw [chunks, unifyDelimiters_append_of_border hborder]
  exact cutAtOpening_append_of_border hu hlast hv

/-- Source with an odd number of chunks has an even number of them in front of the last one. -/
theorem exists_last_chunk {u : List Char} (h : Odd (chunks u).length) :
    ∃ before last, chunks u = before ++ [last] ∧ before.length.bodd = false := by
  obtain ⟨before, last, hu⟩ : ∃ before last, chunks u = before ++ [last] :=
    List.eq_nil_or_concat' _ |>.resolve_left (cutAtOpening_ne_nil _)
  refine ⟨before, last, hu, ?_⟩
  rw [hu, List.length_append, List.length_singleton, Nat.odd_iff] at h
  have hparity := Nat.mod_two_of_bodd before.length
  cases hbodd : before.length.bodd with
  | false => rfl
  | true =>
    rw [hbodd, Bool.toNat_true] at hparity
    omega

/-! ### The pieces at the border -/

/-- Chunks after other chunks stand for what they stand for alone if the others are even in number; else text and tags
change places in them. -/
theorem Piece.ofChunks_append (isTag : Bool) (cs ds : List (List Char)) :
    ofChunks isTag (cs ++ ds) = ofChunks isTag cs ++ ofChunks (cs.length.bodd ^^ isTag) ds := by
  induction cs generalizing isTag with
  | nil => rw [List.nil_append, ofChunks, List.nil_append, List.length_nil, Nat.bodd_zero, Bool.false_xor]
  | cons c cs ih =>
    have hparity : ((c :: cs).length.bodd ^^ isTag) = (cs.length.bodd ^^ !isTag) := by
      rw [List.length_cons, Nat.bodd_succ, Bool.not_xor, Bool.xor_not]
    rw [List.cons_append, ofChunks, ih, ofChunks, hparity, List.append_assoc]

/-- A leaf at the end makes no difference to whether pieces nest. -/
theorem Nested.of_append_leaf {ps : List Piece} {l : Leaf} (h : Nested (ps ++ [.leaf l])) : Nested ps := by
  rw [← firstMisnesting_eq_none_iff] at h ⊢
  rcases scan ps with ⟨stack, -, hwalk⟩ | ⟨m, hfault⟩
  · have hend : firstMisnesting [] ps = firstMisnesting stack [] := by
      have := hwalk []
      rwa [List.append_nil] at this
    rw [hwalk, firstMisnesting] at h
    rw [hend, h]
  · rw [hfault] at h
    exact absurd h (by simp)

namespace Template

theorem toPieces_append (t u : Template) : (t ++ u).toPieces = t.toPieces ++ u.toPieces := by
  induction t with
  | nil => rfl
  | leaf l r ih => rw [leaf_append, toPieces, ih, toPieces, List.cons_append]
  | block k n b r _ ih => simp only [block_append, toPieces, ih, List.cons_append, List.append_assoc]

/-- A template is known by its pieces. -/
theorem toPieces_injective {t u : Template} (h : t.toPieces = u.toPieces) : t = u := by
  rw [← t.forest_toPieces, h, forest_toPieces]

/-- A template whose last piece is a leaf ends in that leaf. -/
theorem exists_append_leaf {t : Template} {ps : List Piece} {l : Leaf} (h : t.toPieces = ps ++ [.leaf l]) :
    ∃ r : Template, t = r ++ leaf l nil ∧ r.toPieces = ps := by
  have hnested : Nested (ps ++ [.leaf l]) := h ▸ t.nested_toPieces
  obtain ⟨r, rfl⟩ := (nested_iff ps).mp hnested.of_append_leaf
  exact ⟨r, toPieces_injective (by rw [h, toPieces_append, toPieces, toPieces]), rfl⟩

/-- A template whose first piece is a leaf begins with that leaf. -/
theorem exists_leaf_of_toPieces {t : Template} {ps : List Piece} {l : Leaf} (h : t.toPieces = .leaf l :: ps) :
    ∃ r : Template, t = leaf l r ∧ r.toPieces = ps := by
  cases t with
  | nil => exact absurd h (by simp [toPieces])
  | leaf l' r =>
    obtain ⟨hl, hr⟩ := List.cons.inj h
    exact ⟨r, by rw [Piece.leaf.inj hl], hr⟩
  | block k n b r => exact absurd (List.cons.inj h).1 (by simp)

/-- **How the templates of two sources make up that of the one source after the other**, given the last chunk of the
first source and the first chunk of the second. The second template follows the first; if neither chunk is empty, the
text that the first template ends in and the text that the second one begins with are one text. -/
inductive Joined (last first : List Char) : Template → Template → Template → Prop
  | apart {t u : Template} : last = [] ∨ first = [] → Joined last first t u (t ++ u)
  | merged {t u : Template} : last ≠ [] → first ≠ [] →
    Joined last first (t ++ leaf (.text (String.ofList last)) nil) (leaf (.text (String.ofList first)) u)
      (t ++ leaf (.text (String.ofList (last ++ first))) u)

/-- What is read from one source after the other is made up of what is read from both. -/
theorem exists_joined {t u : Template} {before after : List Piece} {last first : List Char}
    (ht : t.toPieces = before ++ (Piece.ofText last).toList) (hu : u.toPieces = (Piece.ofText first).toList ++ after) :
    ∃ joined : Template, Joined last first t u joined ∧
      joined.toPieces = before ++ (Piece.ofText (last ++ first)).toList ++ after := by
  cases last with
  | nil =>
    refine ⟨t ++ u, .apart (.inl rfl), ?_⟩
    rw [toPieces_append, ht, hu, List.nil_append, Piece.ofText, Option.toList_none, List.append_nil, List.append_assoc]
  | cons c last =>
    cases first with
    | nil =>
      refine ⟨t ++ u, .apart (.inr rfl), ?_⟩
      rw [toPieces_append, ht, hu, List.append_nil, Piece.ofText.eq_1, Option.toList_none, List.nil_append]
    | cons d first =>
      obtain ⟨r, rfl, rfl⟩ := exists_append_leaf ht
      obtain ⟨r', rfl, rfl⟩ := exists_leaf_of_toPieces hu
      refine ⟨_, .merged (List.cons_ne_nil c last) (List.cons_ne_nil d first), ?_⟩
      rw [toPieces_append, toPieces, List.cons_append, Piece.ofText, Option.toList_some, List.append_assoc]
      rfl

end Template

/-! ### Rendering what was joined -/

/-- **A joined template renders as the one and then the other.** -/
theorem renderParts_of_joined {g : Graph} (inclusion : String → Scope → Stack → Run String) {last first : List Char}
    {t u joined : Template} (h : Template.Joined last first t u joined) (scope : Scope) (stack : Stack) :
    renderParts g inclusion joined scope stack = (do
      let output ← renderParts g inclusion t scope stack
      let next ← renderParts g inclusion u scope stack
      return output ++ next) := by
  cases h with
  | apart _ => exact renderParts_append inclusion t u scope stack
  | @merged t u _ _ =>
    simp only [renderParts_append, renderParts, renderLeaf, bind_assoc, pure_bind, String.append_assoc,
      String.ofList_append, String.append_empty]

namespace Template

/-- **One source after another is read as the one template followed by the other, and renders as the one and then the
other.** The first source has to end outside a tag, no opening brace may be left over at its end, and closing braces may
not meet at the border. Text on both sides of the border becomes one text. The rendering is equal to the two in sequence
as a computation: it has the same effects in the same order, the calls of callables among them, and where one of the two
fails it fails in the same way. -/
theorem parse_append {s s' : String} {t u : Template} (ht : parse s = .ok t) (hu : parse s' = .ok u)
    (houtside : Odd (chunks s.toList).length)
    (hlast : ∀ last ∈ (chunks s.toList).getLast?, last.getLast? ≠ some '{')
    (hborder : ¬(s.toList.getLast? = some '}' ∧ s'.toList.head? = some '}')) :
    ∃ last ∈ (chunks s.toList).getLast?, ∃ first ∈ (chunks s'.toList).head?, ∃ joined : Template,
      parse (s ++ s') = .ok joined ∧ Joined last first t u joined ∧
      ∀ (setting : Setting) (scope : Scope) (stack : Stack), setting.render joined scope stack = (do
        let output ← setting.render t scope stack
        let next ← setting.render u scope stack
        return output ++ next) := by
  -- The chunks in front of the border are even in number, so that the one at the border is text.
  obtain ⟨before, last, hs, heven⟩ := exists_last_chunk houtside
  obtain ⟨first, after, hs'⟩ : ∃ first after, chunks s'.toList = first :: after :=
    List.exists_cons_of_ne_nil (cutAtOpening_ne_nil _)
  have hlast' : last ∈ (chunks s.toList).getLast? := by rw [hs, List.getLast?_concat]; rfl
  have hfirst' : first ∈ (chunks s'.toList).head? := by rw [hs']; rfl
  have hchunks : chunks (s ++ s').toList = before ++ (last ++ first) :: after := by
    rw [String.toList_append]
    exact chunks_append hs hs' (hlast last hlast') fun hend hbegin => hborder ⟨hend, hbegin⟩
  have hpieces : pieces s.toList = Piece.ofChunks false before ++ (Piece.ofText last).toList := by
    rw [pieces, hs, Piece.ofChunks_append, heven, Bool.false_xor, Piece.ofChunks, Piece.ofChunks, List.append_nil]
    rfl
  have hpieces' : pieces s'.toList = (Piece.ofText first).toList ++ Piece.ofChunks true after := by
    rw [pieces, hs']
    rfl
  obtain ⟨joined, hjoined, hjoinedPieces⟩ :=
    exists_joined ((parse_eq_ok_iff.mp ht).trans hpieces) ((parse_eq_ok_iff.mp hu).trans hpieces')
  refine ⟨last, hlast', first, hfirst', joined, parse_of_toPieces ?_, hjoined, fun setting scope stack => ?_⟩
  · rw [hjoinedPieces, pieces, hchunks, Piece.ofChunks_append, heven, List.append_assoc]
    rfl
  · exact renderParts_of_joined _ hjoined scope stack

/-- Source that ends in a brace, as text. -/
def bracedEnd : String := "\x7b\x7bx\x7d\x7dd\x7d"

/-- Source that begins with a brace, as text. -/
def bracedBeginning : String := "\x7be\x7b\x7bx\x7d\x7d"

/-- A table whose `x` is a callable that counts its calls. -/
def counting : Setting where
  graph := ⟨#[.table .plain [(.text "x", .ref 1)], .callable (some []) (.replies (.text "1") [.text "2"])], by decide⟩
  settings := .initial
  partials := .value .null

/-- The two braces at the border are in one text, and the second source is rendered with the second reply. -/
theorem parse_append_braced :
    let t : Template := .leaf (.name "x") (.leaf (.text "d\x7d") .nil)
    let u : Template := .leaf (.text "\x7be") (.leaf (.name "x") .nil)
    let joined : Template := .leaf (.name "x") (.leaf (.text "d\x7d\x7be") (.leaf (.name "x") .nil))
    let rendered (t : Template) : Run String := counting.render t (.value (.ref 0)) Stack.ordinary
    parse bracedEnd = .ok t ∧ parse bracedBeginning = .ok u ∧ Odd (chunks bracedEnd.toList).length ∧
      (∀ last ∈ (chunks bracedEnd.toList).getLast?, last.getLast? ≠ some '{') ∧
      ¬(bracedEnd.toList.getLast? = some '}' ∧ bracedBeginning.toList.head? = some '}') ∧
      parse (bracedEnd ++ bracedBeginning) = .ok joined ∧
      rendered joined = (do
        let output ← rendered t
        let next ← rendered u
        return output ++ next) ∧
      ((rendered joined).runFrom ⟨.fresh, #[]⟩).1 = .ok "1d\x7d\x7be2" := by
  intro t u joined rendered
  have ht : parse bracedEnd = .ok t := by decide
  have hu : parse bracedBeginning = .ok u := by decide
  have houtside : Odd (chunks bracedEnd.toList).length := by decide
  have hlast : ∀ last ∈ (chunks bracedEnd.toList).getLast?, last.getLast? ≠ some '{' := by decide
  have hborder : ¬(bracedEnd.toList.getLast? = some '}' ∧ bracedBeginning.toList.head? = some '}') := by decide
  have hjoined : parse (bracedEnd ++ bracedBeginning) = .ok joined := by decide
  obtain ⟨_, _, _, _, joined', hjoined', _, hrender⟩ := parse_append ht hu houtside hlast hborder
  obtain rfl : joined = joined' := Except.ok.inj (hjoined.symm.trans hjoined')
  exact ⟨ht, hu, houtside, hlast, hborder, hjoined, hrender counting (.value (.ref 0)) Stack.ordinary, rfl⟩

end Template

end Stencil
