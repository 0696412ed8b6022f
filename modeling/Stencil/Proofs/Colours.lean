import Stencil.Log.Colour
import Stencil.Proofs.Lines
import Stencil.Proofs.Locations
import Stencil.Proofs.Numerals

/-!
# Coloured and plain lines say the same

A line for people is put together from pieces, and a style is switched on right in front of its piece and off right
behind it. So, as long as no piece has an escape character of its own, a coloured line is closed, and without the
sequences that switch styles it is the plain line (`Stencil.LinePiece.match_joinParts`). The pieces of a record's line
have no escape characters if what the record shows has none: everything else in them is made of letters, digits and
punctuation (`Stencil.HumanLayout.isPlain_of_mem_pieces`).

A piece that is no text, which can only be what the record says, has neither a plain nor a coloured line.
-/

namespace Stencil

/-! ### Texts without escape characters -/

namespace Text

variable {s t : String}

theorem IsEscapeFree.append (hs : IsEscapeFree s) (ht : IsEscapeFree t) : IsEscapeFree (s ++ t) := by
  rw [IsEscapeFree, String.toList_append, List.mem_append]
  exact not_or.mpr ⟨hs, ht⟩

theorem isEscapeFree_repr (n : Nat) : IsEscapeFree (Nat.repr n) := by
  rw [IsEscapeFree, Nat.toList_repr]
  intro h
  exact absurd (Number.isDigit_of_mem_toDigits n _ h) (by decide)

theorem isEscapeFree_replicate {c : Char} (hc : c ≠ '\x1b') (n : Nat) :
    IsEscapeFree (String.ofList (List.replicate n c)) := by
  rw [IsEscapeFree, String.toList_ofList]
  intro h
  exact hc (List.eq_of_mem_replicate h).symm

/-- The numeral of an integer has no escape character. -/
theorem isEscapeFree_integerText {n : Int} (h : Graph.integerText n = .ok t) : IsEscapeFree t := by
  rw [Graph.integerText, Number.integerText?] at h
  split at h
  · next digits hdigits =>
    obtain rfl := Except.ok.inj h
    split at hdigits
    · obtain rfl := Option.some.inj hdigits
      split
      · exact IsEscapeFree.append (by decide) (isEscapeFree_repr _)
      · exact isEscapeFree_repr _
    · cases hdigits
  · cases h

end Text

open Text (IsEscapeFree)

theorem Clock.isEscapeFree_padded (width n : Nat) : IsEscapeFree (padded width n) :=
  (Text.isEscapeFree_replicate (by decide) _).append (Text.isEscapeFree_repr n)

theorem Clock.isEscapeFree_timeText (t : DateTime) : IsEscapeFree (timeText t) := by
  have hcolon : IsEscapeFree ":" := by decide
  exact ((((isEscapeFree_padded 2 t.hour).append hcolon).append (isEscapeFree_padded 2 t.minute)).append
    hcolon).append (isEscapeFree_padded 2 t.second)

theorem isEscapeFree_severity (level : Int) : IsEscapeFree (severity level) := by
  have hnames : ∀ entry ∈ severityNames, IsEscapeFree entry.2 := by decide
  rw [severity]
  rcases h : severityNames.lookup level with _ | name
  · exact (by decide : IsEscapeFree "INFO")
  · obtain ⟨before, after, hentry, -⟩ := List.lookup_eq_some_iff.mp h
    exact hnames _ (hentry ▸ List.mem_append_right before List.mem_cons_self)

theorem HumanLayout.isEscapeFree_severityColumn (level : Int) : IsEscapeFree (severityColumn level) :=
  ((isEscapeFree_severity level).append (Text.isEscapeFree_replicate (by decide) _)).append (by decide)

theorem Record.isEscapeFree_shortPath {path : String} (h : IsEscapeFree path) :
    IsEscapeFree (shortPath path) := by
  rw [shortPath]
  split
  · next rest hfound =>
    obtain ⟨anchor, -, hrest⟩ := List.exists_of_findSome?_eq_some hfound
    rw [IsEscapeFree, String.toList_ofList]
    exact fun hmem => h ((Text.suffix_of_afterFirst? hrest).subset hmem)
  · exact h

/-! ### Styles -/

namespace Style

/-- What is outside of all sequences is kept. -/
theorem strip_append {text : String} (h : IsEscapeFree text) (cs : List Char) :
    strip false (text.toList ++ cs) = text.toList ++ strip false cs := by
  rw [IsEscapeFree] at h
  generalize text.toList = text at h ⊢
  induction text with
  | nil => rfl
  | cons c text ih =>
    obtain ⟨hc, htext⟩ := not_or.mp (mt List.mem_cons.mpr h)
    rw [List.cons_append, strip, if_neg Bool.false_ne_true, if_neg (Ne.symm hc), ih htext]
    rfl

theorem strip_on (style : Style) (cs : List Char) : strip false (style.on.toList ++ cs) = strip false cs := by
  cases style <;> rfl

theorem strip_off (cs : List Char) : strip false (off.toList ++ cs) = strip false cs := rfl

theorem Closed.text_append {text : String} {cs : List Char} (h : IsEscapeFree text) (hcs : Closed cs) :
    Closed (text.toList ++ cs) := by
  rw [IsEscapeFree] at h
  generalize text.toList = text at h ⊢
  induction text with
  | nil => exact hcs
  | cons c text ih =>
    obtain ⟨hc, htext⟩ := not_or.mp (mt List.mem_cons.mpr h)
    exact .unstyled (Ne.symm hc) (ih htext)

end Style

/-! ### Putting pieces together -/

namespace LinePiece

variable {g : Graph}

/-- Whether a piece is free of escape characters if it is text. -/
def IsPlain (p : LinePiece) : Prop := ∀ text, p.content = .text text → IsEscapeFree text

theorem isPlain_ofText {style : Option Style} {text : String} (h : IsEscapeFree text) :
    (ofText style text).IsPlain := by
  rintro _ ⟨⟩
  exact h

theorem joinParts_of_not_text {v : Value} (h : ∀ text, v ≠ .text text) (place : Nat) (parts : List Value) :
    joinParts g place (v :: parts) = .error (.partNotText place (g.qualifiedTypeName v)) := by
  cases v with
  | text s => exact absurd rfl (h s)
  | _ => rfl

/-- **What a coloured line has to do with the plain one**: the plain one has no escape characters, and is what is left
of the coloured one without its sequences, in which every style is closed. Without a plain line there is no coloured one
either, for a reason of the same kind. -/
def Match : (plain coloured : Except Fault String) → Prop
  | .ok plain, coloured => IsEscapeFree plain ∧ ∃ line, coloured = .ok line ∧
      Style.strip false line.toList = plain.toList ∧ Style.Closed line.toList
  | .error f, coloured => ∃ f', coloured = .error f' ∧ f'.kind = f.kind

variable {plain coloured : Except Fault String} {text : String}

/-- The same text in front of both lines. -/
theorem Match.unstyled (htext : IsEscapeFree text) (h : Match plain coloured) :
    Match (plain.map (text ++ ·)) (coloured.map (text ++ ·)) := by
  rcases plain with f | plain
  · obtain ⟨f', rfl, hkind⟩ := h
    exact ⟨f', rfl, hkind⟩
  · obtain ⟨hplain, line, rfl, hstrip, hclosed⟩ := h
    refine ⟨htext.append hplain, text ++ line, rfl, ?_, ?_⟩
    · rw [String.toList_append, Style.strip_append htext, hstrip, String.toList_append]
    · rw [String.toList_append]
      exact hclosed.text_append htext

/-- The same text in front of both lines, in a style in the coloured one. -/
theorem Match.styled (style : Style) (htext : IsEscapeFree text) (h : Match plain coloured) :
    Match (plain.map (text ++ ·)) (((coloured.map (Style.off ++ ·)).map (text ++ ·)).map (style.on ++ ·)) := by
  rcases plain with f | plain
  · obtain ⟨f', rfl, hkind⟩ := h
    exact ⟨f', rfl, hkind⟩
  · obtain ⟨hplain, line, rfl, hstrip, hclosed⟩ := h
    refine ⟨htext.append hplain, style.on ++ (text ++ (Style.off ++ line)), rfl, ?_, ?_⟩
    · rw [String.toList_append, String.toList_append, String.toList_append, Style.strip_on, Style.strip_append htext,
        Style.strip_off, hstrip, String.toList_append]
    · rw [String.toList_append, String.toList_append, String.toList_append]
      exact .styled style htext hclosed

/-- **Pieces without escape characters make lines that say the same**, whatever their styles. -/
theorem match_joinParts {ps : List LinePiece} (h : ∀ p ∈ ps, p.IsPlain) (place place' : Nat) :
    Match (joinParts g place (ps.flatMap (parts false))) (joinParts g place' (ps.flatMap (parts true))) := by
  induction ps generalizing place place' with
  | nil => exact ⟨by decide, "", rfl, rfl, .nil⟩
  | cons p ps ih =>
    obtain ⟨style, content⟩ := p
    rw [List.flatMap_cons, List.flatMap_cons]
    by_cases hcontent : ∃ text, content = .text text
    · obtain ⟨text, rfl⟩ := hcontent
      have htext : IsEscapeFree text := h _ List.mem_cons_self text rfl
      have hrest := ih fun q hq => h q (List.mem_cons_of_mem _ hq)
      cases style with
      | none => exact (hrest _ _).unstyled htext
      | some style => exact (hrest _ _).styled style htext
    · -- What is no text ends both lines, at places that differ by the sequences in front.
      have hnot (text : String) : content ≠ .text text := fun heq => hcontent ⟨text, heq⟩
      have hplain := joinParts_of_not_text (g := g) hnot
      cases style with
      | none => exact (congrArg₂ Match (hplain place _) (hplain place' _)).mpr ⟨_, rfl, rfl⟩
      | some style =>
        have hcoloured : joinParts g place' (parts true ⟨some style, content⟩ ++ ps.flatMap (parts true)) =
            .error (.partNotText (place' + 1) (g.qualifiedTypeName content)) := by
          change (joinParts g (place' + 1) (content :: .text Style.off :: ps.flatMap (parts true))).map _ = _
          rw [hplain]
          rfl
        exact (congrArg₂ Match (hplain place _) hcoloured).mpr ⟨_, rfl, rfl⟩

end LinePiece

/-! ### Lines of records -/

namespace HumanLayout

variable {g : Graph} {r : Record} {σ τ : RunState}

theorem isPlain_of_mem_partialPieces (hclean : r.IsFreeOfEscapes g σ) {said : Value}
    (hsaid : (r.said g).runFrom σ = (.ok said, τ)) {ps : List LinePiece}
    (h : partialPieces g τ.memory r = .ok ps) : ∀ p ∈ ps, p.IsPlain := by
  rw [partialPieces] at h
  rcases htruth : g.truth τ.memory (r.attributeOf "partial") with f | _ | _
  · rw [htruth] at h
    exact nomatch h
  · rw [htruth] at h
    cases h
    exact fun _ hp => nomatch hp
  · rcases htext : g.display τ.memory (r.attributeOf "partial") with f | text
    · rw [htruth, htext] at h
      exact nomatch h
    · rw [htruth, htext] at h
      cases h
      intro p hp
      rw [List.mem_singleton.mp hp]
      exact LinePiece.isPlain_ofText
        ((IsEscapeFree.append (by decide) (hclean.partialName hsaid htext)).append (by decide))

theorem isPlain_of_mem_placePieces (hclean : r.IsFreeOfEscapes g σ) {m : Memory} {ps : List LinePiece}
    (h : placePieces g m r = .ok ps) : ∀ p ∈ ps, p.IsPlain := by
  rw [placePieces] at h
  split at h
  · obtain ⟨n, hn⟩ := hclean.line
    rcases htext : g.display m r.line with f | text
    · rw [htext] at h
      cases h
    · rw [htext] at h
      cases h
      intro p hp
      have hline : IsEscapeFree text := Text.isEscapeFree_integerText (by rw [← htext, hn]; rfl)
      have hpath := Record.isEscapeFree_shortPath hclean.path
      rw [List.mem_singleton.mp hp]
      exact LinePiece.isPlain_ofText
        (((((by decide : IsEscapeFree " [").append hpath).append (by decide)).append hline).append (by decide))
  · cases h
    exact fun _ hp => absurd hp List.not_mem_nil

/-- The pieces of a record that shows no escape characters have none. -/
theorem isPlain_of_mem_pieces (hclean : r.IsFreeOfEscapes g σ) {ps : List LinePiece}
    (h : (pieces g r).runFrom σ = (.ok ps, τ)) : ∀ p ∈ ps, p.IsPlain := by
  obtain ⟨time, -, scope, hscope, scopeText, hscopeText, said, hsaid, about, habout, place, hplace, rfl⟩ :=
    runFrom_pieces_eq_ok_iff.mp h
  have hscopePiece : IsEscapeFree ("[" ++ scopeText ++ "] ") :=
    (IsEscapeFree.append (by decide) (hclean.scope hscope hscopeText)).append (by decide)
  intro p hp
  simp only [List.mem_append, List.mem_cons, List.not_mem_nil, or_false] at hp
  rcases hp with ((rfl | rfl | rfl | rfl | rfl) | habout') | hplace'
  · exact LinePiece.isPlain_ofText (Clock.isEscapeFree_timeText time)
  · exact LinePiece.isPlain_ofText (by decide)
  · exact LinePiece.isPlain_ofText (isEscapeFree_severityColumn r.level)
  · exact LinePiece.isPlain_ofText hscopePiece
  · rintro text rfl
    exact hclean.said hsaid
  · exact isPlain_of_mem_partialPieces hclean hsaid habout p habout'
  · exact isPlain_of_mem_placePieces hclean hplace p hplace'

/-- **The coloured line of a record says the same as the plain one.** If what the record shows has no escape characters,
the plain line has none, and it is what is left of the coloured line without its sequences; there each style is switched
off before the next is switched on, and before the line ends. Both lines leave the same state behind. Where there is no
plain line there is no coloured one. -/
theorem line_uncoloured (hclean : r.IsFreeOfEscapes g σ) :
    match (line g false r).runFrom σ with
    | (.ok plain, τ) => IsEscapeFree plain ∧ ∃ coloured, (line g true r).runFrom σ = (.ok coloured, τ) ∧
        Style.strip false coloured.toList = plain.toList ∧ Style.Closed coloured.toList
    | (.error f, τ) => ∃ f', (line g true r).runFrom σ = (.error f', τ) ∧ f'.kind = f.kind := by
  rw [runFrom_line, runFrom_line]
  rcases hpieces : (pieces g r).runFrom σ with ⟨f | ps, τ⟩
  · exact ⟨f, rfl, rfl⟩
  · have hmatch := LinePiece.match_joinParts (g := g) (isPlain_of_mem_pieces hclean hpieces) 0 0
    dsimp only [LinePiece.join]
    rcases hplain : LinePiece.joinParts g 0 (ps.flatMap (LinePiece.parts false)) with f | plain
    · rw [hplain] at hmatch
      obtain ⟨f', hf', hkind⟩ := hmatch
      exact ⟨f', by rw [hf'], hkind⟩
    · rw [hplain] at hmatch
      obtain ⟨hfree, coloured, hcoloured, hstrip, hclosed⟩ := hmatch
      exact ⟨hfree, coloured, by rw [hcoloured], hstrip, hclosed⟩

/-- A record of an error inside a partial, which shows its place. -/
def broken : Record :=
  { logger := "whisker.renderer", level := 40, path := "/src/whisker/template/renderer.py", line := .int 42
    message := .text "gone", arguments := .positional [], created := .finite false 6291456002097152 (-22)
    attributes := [("partial", .text "nav")] }

/-- The plain line of that record. -/
def brokenLine : String := "02:40:00 ERROR [renderer] gone (nav) [template/renderer.py:42]"

/-- The coloured line of that record, with a style for the severity, one for the scope and one for the place. -/
def brokenColoured : String :=
  "02:40:00 \x1b[31mERROR \x1b[0m\x1b[36m[renderer] \x1b[0mgone (nav)\x1b[2m [template/renderer.py:42]\x1b[0m"

theorem runFrom_line_broken (σ : RunState) :
    (line .empty false broken).runFrom σ = (.ok brokenLine, σ) ∧
      (line .empty true broken).runFrom σ = (.ok brokenColoured, σ) := by
  constructor
  all_goals refine Prod.ext ?_ ?_ <;> rfl

/-- What the coloured line of that record has to do with the plain one. -/
theorem line_uncoloured_broken :
    let σ : RunState := ⟨.fresh, #[]⟩
    broken.IsFreeOfEscapes .empty σ ∧ (line .empty false broken).runFrom σ = (.ok brokenLine, σ) ∧
      (line .empty true broken).runFrom σ = (.ok brokenColoured, σ) ∧ IsEscapeFree brokenLine ∧
      Style.strip false brokenColoured.toList = brokenLine.toList ∧ Style.Closed brokenColoured.toList := by
  intro σ
  have hclean : broken.IsFreeOfEscapes .empty σ := by
    refine ⟨?_, ?_, ?_, by decide, 42, rfl⟩
    · intro scope text hscope htext
      have hown : broken.scope .empty σ.memory = .ok (.text "renderer") := by rfl
      obtain rfl : Value.text "renderer" = scope := Except.ok.inj (hown.symm.trans hscope)
      obtain rfl : "renderer" = text := Except.ok.inj htext
      decide
    · intro text τ hsaid
      obtain rfl : "gone" = text := Value.text.inj (Except.ok.inj (congrArg Prod.fst hsaid))
      decide
    · intro said text τ _ htext
      obtain rfl : "nav" = text := Except.ok.inj htext
      decide
  obtain ⟨hplain, hcoloured⟩ := runFrom_line_broken σ
  have h := line_uncoloured hclean
  rw [hplain] at h
  obtain ⟨hfree, coloured, hline, hstrip, hclosed⟩ := h
  obtain rfl : brokenColoured = coloured := Except.ok.inj (Prod.mk.inj (hcoloured.symm.trans hline)).1
  exact ⟨hclean, hplain, hcoloured, hfree, hstrip, hclosed⟩

end HumanLayout

end Stencil
