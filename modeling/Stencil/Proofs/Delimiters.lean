import Stencil.Template.Spelling
import Stencil.Template.Source

/-!
# Delimiters in source

Source is cut into chunks in two passes: closing delimiters are rewritten as opening ones, and the result is
cut at the opening ones, each time from left to right. This file says when the passes find the delimiters
where they were written. The danger is a brace at the border: a text that ends in an opening brace, or begins
with a closing one, would join the delimiter next to it.

* `Stencil.unifyDelimiters_append` passes over characters without delimiters, provided that no closing brace
  stands on both sides of their right end.
* `Stencil.cutAtOpening_append` cuts off characters without delimiters that do not end in an opening brace.
* `Stencil.chunks_tag` and `Stencil.chunks_text` put the two together for a lexeme in front of source, and
  `Stencil.pieces_printAll` for all lexemes of a legible spelling.
-/

namespace Stencil

/-! ### Characters without delimiters -/

theorem hasDelimiter_tail {c : Char} {cs : List Char} (h : hasDelimiter (c :: cs) = false) :
    hasDelimiter cs = false := by
  unfold hasDelimiter at h
  split at h
  · exact absurd h (by simp)
  · exact absurd h (by simp)
  · next heq =>
    obtain ⟨-, rfl⟩ := List.cons.inj heq
    exact h
  · next heq => exact absurd heq (by simp)

theorem ne_of_hasDelimiter_opening {c : Char} {cs : List Char}
    (h : hasDelimiter ('{' :: c :: cs) = false) : c ≠ '{' := by
  rintro rfl
  exact absurd h (by simp [hasDelimiter])

theorem ne_of_hasDelimiter_closing {c : Char} {cs : List Char}
    (h : hasDelimiter ('}' :: c :: cs) = false) : c ≠ '}' := by
  rintro rfl
  exact absurd h (by simp [hasDelimiter])

/-! ### The first pass -/

theorem unifyDelimiters_cons_of_ne {c : Char} (h : c ≠ '}') (cs : List Char) :
    unifyDelimiters (c :: cs) = c :: unifyDelimiters cs := by
  rw [unifyDelimiters]
  · rintro ds rfl
    exact absurd rfl h
  · rintro ds rfl
    exact absurd rfl h

/-- A closing brace that stands alone is left as it is. -/
theorem unifyDelimiters_brace {cs : List Char} (h : cs.head? ≠ some '}') :
    unifyDelimiters ('}' :: cs) = '}' :: unifyDelimiters cs := by
  rw [unifyDelimiters]
  · rintro ds - rfl
    exact h rfl
  · rintro ds - rfl
    exact h rfl

/-- A closing delimiter of two braces, where no third one follows. -/
theorem unifyDelimiters_short {cs : List Char} (h : cs.head? ≠ some '}') :
    unifyDelimiters ('}' :: '}' :: cs) = '{' :: '{' :: unifyDelimiters cs := by
  rw [unifyDelimiters]
  rintro ds rfl
  exact h rfl

/-- **The first pass leaves characters without delimiters alone**, unless a closing brace at their end joins
one that follows. -/
theorem unifyDelimiters_append {u v : List Char} (hu : hasDelimiter u = false)
    (h : u.getLast? = some '}' → v.head? ≠ some '}') :
    unifyDelimiters (u ++ v) = u ++ unifyDelimiters v := by
  induction u with
  | nil => rfl
  | cons c u ih =>
    have hrest : unifyDelimiters (u ++ v) = u ++ unifyDelimiters v := by
      refine ih (hasDelimiter_tail hu) fun hlast => h ?_
      cases u with
      | nil => exact absurd hlast (by simp)
      | cons d u => rw [List.getLast?_cons_cons, hlast]
    rw [List.cons_append, List.cons_append, ← hrest]
    by_cases hc : c = '}'
    · subst hc
      refine unifyDelimiters_brace ?_
      cases u with
      | nil => exact h rfl
      | cons d u => simpa using ne_of_hasDelimiter_closing hu
    · exact unifyDelimiters_cons_of_ne hc _

/-! ### The second pass -/

/-- A character that begins no delimiter belongs to the first part. -/
theorem cutAtOpening_cons {c : Char} {cs : List Char} (h : c = '{' → cs.head? ≠ some '{') {d : List Char}
    {ds : List (List Char)} (hcs : cutAtOpening cs = d :: ds) :
    cutAtOpening (c :: cs) = (c :: d) :: ds := by
  rw [cutAtOpening, hcs]
  rintro es rfl rfl
  exact h rfl rfl

/-- Characters without delimiters are one part. -/
theorem cutAtOpening_of_hasDelimiter {u : List Char} (hu : hasDelimiter u = false) :
    cutAtOpening u = [u] := by
  induction u with
  | nil => rfl
  | cons c u ih =>
    refine cutAtOpening_cons (fun hc => ?_) (ih (hasDelimiter_tail hu))
    subst hc
    cases u with
    | nil => simp
    | cons d u => simpa using ne_of_hasDelimiter_opening hu

/-- **The second pass cuts where a delimiter was written**, unless an opening brace in front of it joins it. -/
theorem cutAtOpening_append {u : List Char} (hu : hasDelimiter u = false) (hlast : u.getLast? ≠ some '{')
    (v : List Char) : cutAtOpening (u ++ '{' :: '{' :: v) = u :: cutAtOpening v := by
  induction u with
  | nil => rw [List.nil_append, cutAtOpening]
  | cons c u ih =>
    have hrest : cutAtOpening (u ++ '{' :: '{' :: v) = u :: cutAtOpening v := by
      refine ih (hasDelimiter_tail hu) fun hu' => hlast ?_
      cases u with
      | nil => exact absurd hu' (by simp)
      | cons d u => rw [List.getLast?_cons_cons, hu']
    refine cutAtOpening_cons (fun hc => ?_) hrest
    subst hc
    cases u with
    | nil => exact absurd rfl hlast
    | cons d u => simpa using ne_of_hasDelimiter_opening hu

/-! ### Chunks of lexemes -/

/-- What a lexeme contributes to a template. -/
def Lexeme.pieces : Lexeme → List Piece
  | .text cs => (Piece.ofText cs).toList
  | .tag body _ => (Piece.ofTag body).toList

/-- A tag in front of source: an empty text, the body of the tag, and the chunks of the source. -/
theorem chunks_tag {body : List Char} {long : Bool} (hbody : (Lexeme.tag body long).IsSound)
    (source : List Char) (hsource : long = false → source.head? ≠ some '}') :
    chunks ((Lexeme.tag body long).print ++ source) = [] :: body :: chunks source := by
  obtain ⟨hdelim, hopening, hclosing⟩ := hbody
  -- the closing delimiter is found after the body, whichever of the two it is
  have hclose : unifyDelimiters (body ++ (if long then ['}', '}', '}'] else ['}', '}']) ++ source)
      = body ++ '{' :: '{' :: unifyDelimiters source := by
    rw [List.append_assoc, unifyDelimiters_append hdelim fun hlast => absurd hlast hclosing]
    cases long with
    | true => rfl
    | false => exact congrArg (body ++ ·) (unifyDelimiters_short (hsource rfl))
  have hprint : (Lexeme.tag body long).print ++ source
      = '{' :: '{' :: (body ++ (if long then ['}', '}', '}'] else ['}', '}']) ++ source) := by
    cases long <;> simp [Lexeme.print]
  rw [chunks, hprint, unifyDelimiters_cons_of_ne (by decide), unifyDelimiters_cons_of_ne (by decide), hclose,
    cutAtOpening, cutAtOpening_append hdelim hopening]
  rfl

/-- Text in front of a tag is a chunk of its own. -/
theorem chunks_text {cs : List Char} (hcs : (Lexeme.text cs).IsSound) (hlast : cs.getLast? ≠ some '{')
    (body : List Char) (long : Bool) (source : List Char) {rest : List (List Char)}
    (hrest : chunks ((Lexeme.tag body long).print ++ source) = [] :: rest) :
    chunks (cs ++ ((Lexeme.tag body long).print ++ source)) = cs :: rest := by
  have hprint : ∃ after, (Lexeme.tag body long).print ++ source = '{' :: '{' :: after := by
    cases long with
    | true => exact ⟨body ++ ['}', '}', '}'] ++ source, by simp [Lexeme.print]⟩
    | false => exact ⟨body ++ ['}', '}'] ++ source, by simp [Lexeme.print]⟩
  obtain ⟨after, hafter⟩ := hprint
  rw [hafter] at hrest ⊢
  rw [chunks, unifyDelimiters_cons_of_ne (by decide), unifyDelimiters_cons_of_ne (by decide)] at hrest
  rw [chunks, unifyDelimiters_append hcs (by simp), unifyDelimiters_cons_of_ne (by decide),
    unifyDelimiters_cons_of_ne (by decide), cutAtOpening_append hcs hlast]
  rw [cutAtOpening] at hrest
  rw [(List.cons.inj hrest).2]

/-- Text alone is one chunk. -/
theorem chunks_of_isSound {cs : List Char} (hcs : (Lexeme.text cs).IsSound) : chunks cs = [cs] := by
  have hunify : unifyDelimiters (cs ++ []) = cs ++ [] := unifyDelimiters_append hcs (by simp)
  rw [List.append_nil] at hunify
  rw [chunks, hunify, cutAtOpening_of_hasDelimiter hcs]

/-! ### Pieces of lexemes -/

/-- Tags may stand next to each other. -/
theorem isChained_of_tags {ls : List Lexeme} (h : ∀ l ∈ ls, ∃ body long, l = .tag body long) : IsChained ls := by
  induction ls with
  | nil => trivial
  | cons l ls ih =>
    cases ls with
    | nil => trivial
    | cons m ls =>
      obtain ⟨body, long, rfl⟩ := h l List.mem_cons_self
      obtain ⟨body', long', rfl⟩ := h m (List.mem_cons_of_mem _ List.mem_cons_self)
      exact ⟨trivial, ih fun l' hl' => h l' (List.mem_cons_of_mem _ hl')⟩

theorem isChained_tail {l : Lexeme} {ls : List Lexeme} (h : IsChained (l :: ls)) : IsChained ls := by
  cases ls with
  | nil => trivial
  | cons m ls => exact h.2

/-- What follows a tag that is closed by two braces does not begin with a closing one. -/
theorem head?_printAll_ne {body : List Char} {ls : List Lexeme}
    (h : IsChained (.tag body false :: ls)) : (Lexeme.printAll ls).head? ≠ some '}' := by
  induction ls with
  | nil => simp [Lexeme.printAll]
  | cons l ls ih =>
    cases l with
    | tag body' long => cases long <;> simp [Lexeme.printAll, Lexeme.print]
    | text cs =>
      cases cs with
      | cons c cs =>
        intro hhead
        exact absurd (h.1 (by simpa [Lexeme.printAll, Lexeme.print] using hhead)) (by simp)
      | nil =>
        -- an empty text is followed by a tag, or by nothing
        cases ls with
        | nil => simp [Lexeme.printAll, Lexeme.print]
        | cons m ls =>
          cases m with
          | text cs => exact absurd h.2.1 id
          | tag body' long => cases long <;> simp [Lexeme.printAll, Lexeme.print]

/-- **The pieces of a legible spelling** are those of its lexemes. -/
theorem pieces_printAll {ls : List Lexeme} (hsound : ∀ l ∈ ls, l.IsSound) (hchain : IsChained ls) :
    pieces (Lexeme.printAll ls) = ls.flatMap Lexeme.pieces := by
  induction ls with
  | nil => rfl
  | cons l ls ih =>
    have ih := ih (fun m hm => hsound m (List.mem_cons_of_mem l hm)) (isChained_tail hchain)
    have hprint : Lexeme.printAll (l :: ls) = l.print ++ Lexeme.printAll ls := List.flatMap_cons
    rw [hprint, List.flatMap_cons, ← ih]
    cases l with
    | tag body long =>
      have hchunks := chunks_tag (hsound (.tag body long) (by simp)) (Lexeme.printAll ls)
        fun hlong => head?_printAll_ne (by rw [← hlong]; exact hchain)
      rw [pieces, hchunks]
      rfl
    | text cs =>
      have hcs := hsound (.text cs) (by simp)
      cases ls with
      | nil =>
        rw [pieces, pieces, Lexeme.printAll, List.flatMap_nil, List.append_nil, Lexeme.print,
          chunks_of_isSound hcs]
        rfl
      | cons m ls =>
        cases m with
        | text ds => exact absurd hchain.1 id
        | tag body long =>
          have htag := chunks_tag (hsound (.tag body long) (by simp)) (Lexeme.printAll ls)
            fun hlong => head?_printAll_ne (by rw [← hlong]; exact hchain.2)
          have hrest : Lexeme.printAll (.tag body long :: ls)
              = (Lexeme.tag body long).print ++ Lexeme.printAll ls := List.flatMap_cons
          rw [pieces, pieces, hrest, Lexeme.print, chunks_text hcs hchain.1 body long _ htag, htag]
          rfl

end Stencil
