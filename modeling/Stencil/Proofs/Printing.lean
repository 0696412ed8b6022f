import Stencil.Template.Printer
import Stencil.Proofs.Chunks
import Stencil.Proofs.Order
import Stencil.Proofs.Spelling

/-!
# What is read can be printed and read back

Not every template can be written as source: a text with a delimiter in it cannot, nor can a name with blanks around it.
The templates that are read can, whatever the source was. Their texts and names are clean, because chunks are free of
delimiters and names are trimmed, and a text that ends in an opening brace is the last part of its template, outside of
all blocks, because only the last chunk can end so (`Stencil.Template.isClean_of_parse`,
`Stencil.Template.braceIsLast_of_parse`).

A template is printed piece by piece. `Stencil.lexemes` says as which lexemes, and these are a legible spelling of the
pieces that they are printed from, so `Stencil.pieces_printAll` reads them back (`Stencil.pieces_printAll_lexemes`).
-/

namespace Stencil

/-! ### Pieces of source -/

namespace Piece

/-- Whether text is not empty and free of delimiters, and names are clean. -/
def IsClean : Piece → Prop
  | .leaf l => (Item.leaf l).IsClean
  | .opening _ n => IsCleanName n
  | .closing n => IsCleanName n

/-- **The name in a tag is clean**, if the tag is free of delimiters. -/
theorem isCleanName_nameOf {cs : List Char} (h : hasDelimiter cs = false) : IsCleanName (nameOf cs) := by
  rw [IsCleanName, nameOf, String.toList_ofList]
  exact ⟨Text.trim_trim cs, hasDelimiter_of_isInfix h (Text.trim_isInfix cs)⟩

theorem isClean_of_ofTag {chunk : List Char} (h : hasDelimiter chunk = false) {p : Piece} (hp : ofTag chunk = some p) :
    p.IsClean := by
  unfold ofTag at hp
  split at hp
  · cases hp
  · cases hp
  case h_9 =>
    cases hp
    exact isCleanName_nameOf h
  all_goals
    cases hp
    exact isCleanName_nameOf (hasDelimiter_tail h)

theorem isClean_of_ofText {chunk : List Char} (h : hasDelimiter chunk = false) {p : Piece}
    (hp : ofText chunk = some p) : p.IsClean := by
  cases chunk with
  | nil => cases hp
  | cons c cs =>
    cases hp
    refine ⟨fun hnil => ?_, by rwa [String.toList_ofList]⟩
    exact absurd (String.ofList_eq_empty_iff.mp hnil) (by simp)

/-- **Chunks without delimiters contribute clean pieces.** -/
theorem isClean_of_mem_ofChunks {isTag : Bool} {cs : List (List Char)} (h : ∀ c ∈ cs, hasDelimiter c = false)
    {p : Piece} (hp : p ∈ ofChunks isTag cs) : p.IsClean := by
  induction cs generalizing isTag with
  | nil => cases hp
  | cons c cs ih =>
    rw [ofChunks, List.mem_append, Option.mem_toList] at hp
    rcases hp with hp | hp
    · have hc : hasDelimiter c = false := h c List.mem_cons_self
      cases isTag with
      | true => exact isClean_of_ofTag hc hp
      | false => exact isClean_of_ofText hc hp
    · exact ih (fun d hd => h d (List.mem_cons_of_mem c hd)) hp

/-- Only a chunk of text contributes text, and it contributes all of it. -/
theorem toList_of_ofChunk {isTag : Bool} {chunk : List Char} {s : String}
    (h : ofChunk isTag chunk = some (.leaf (.text s))) : s.toList = chunk := by
  cases isTag with
  | true =>
    have htag : ofTag chunk = some (.leaf (.text s)) := h
    unfold ofTag at htag
    split at htag <;> cases htag
  | false =>
    cases chunk with
    | nil => cases h
    | cons c cs =>
      cases h
      exact String.toList_ofList

end Piece

/-- Whether nothing follows a text that ends in an opening brace, not even the end of a block: such a text is the last
part outside of all blocks. -/
def BraceIsLast (ps : List Piece) : Prop :=
  ∀ (before after : List Piece) (s : String), ps = before ++ .leaf (.text s) :: after →
    s.toList.getLast? = some '{' → after = []

theorem BraceIsLast.tail {p : Piece} {ps : List Piece} (h : BraceIsLast (p :: ps)) : BraceIsLast ps :=
  fun before after s hps => h (p :: before) after s (by rw [hps]; rfl)

/-- **If only the last chunk can end in an opening brace, nothing follows a text that does.** -/
theorem braceIsLast_ofChunks {isTag : Bool} {cs : List (List Char)}
    (h : ∀ c ∈ cs.dropLast, c.getLast? ≠ some '{') : BraceIsLast (Piece.ofChunks isTag cs) := by
  induction cs generalizing isTag with
  | nil => exact fun before after s hps => by simp [Piece.ofChunks] at hps
  | cons c cs ih =>
    have htail : ∀ d ∈ cs.dropLast, d.getLast? ≠ some '{' := by
      cases cs with
      | nil => simp
      | cons d ds => exact fun e he => h e (List.mem_cons_of_mem c he)
    intro before after s hps hlast
    rw [Piece.ofChunks] at hps
    cases hc : Piece.ofChunk isTag c with
    | none =>
      rw [hc] at hps
      exact ih htail before after s hps hlast
    | some p =>
      rw [hc] at hps
      cases before with
      | cons q before => exact ih htail before after s (List.cons.inj hps).2 hlast
      | nil =>
        obtain ⟨rfl, hafter⟩ := List.cons.inj hps
        rw [Piece.toList_of_ofChunk hc] at hlast
        cases cs with
        | nil => exact hafter.symm
        | cons d ds => exact absurd hlast (h c List.mem_cons_self)

namespace Template

/-- **The pieces of a template that is read are clean.** -/
theorem isClean_of_mem_toPieces {s : String} {t : Template} (h : parse s = .ok t) {p : Piece} (hp : p ∈ t.toPieces) :
    p.IsClean := by
  rw [parse_eq_ok_iff.mp h] at hp
  exact Piece.isClean_of_mem_ofChunks (fun _ => hasDelimiter_of_mem_chunks) hp

/-- **A template that is read is clean.** -/
theorem isClean_of_parse {s : String} {t : Template} (h : parse s = .ok t) : t.IsClean := by
  intro i hi
  rw [items_eq_filterMap, List.mem_filterMap] at hi
  obtain ⟨p, hp, hpi⟩ := hi
  have hclean : p.IsClean := isClean_of_mem_toPieces h hp
  cases p <;> cases hpi <;> exact hclean

/-- **In a template that is read nothing follows a text that ends in an opening brace.** -/
theorem braceIsLast_of_parse {s : String} {t : Template} (h : parse s = .ok t) : BraceIsLast t.toPieces := by
  rw [parse_eq_ok_iff.mp h]
  exact braceIsLast_ofChunks fun _ => getLast?_ne_of_mem_dropLast_chunks

end Template

/-! ### Pieces as lexemes -/

/-- The body of a tag with a mark and a name, which has one blank on either side. -/
def paddedBody (mark : List Char) (name : String) : List Char := mark ++ ' ' :: (name.toList ++ [' '])

namespace Piece

/-- The lexeme that a piece is printed as. -/
def lexeme : Piece → Lexeme
  | .leaf (.text s) => .text s.toList
  | .leaf (.name n) => .tag (paddedBody [] n) true
  | .leaf (.raw n) => .tag (paddedBody ['&'] n) true
  | .leaf (.inclusion n) => .tag (paddedBody ['>'] n) true
  | .opening k n => .tag (paddedBody [k.mark] n) true
  | .closing n => .tag (paddedBody ['/'] n) true

/-- Whether a piece is text. -/
def isText : Piece → Bool
  | .leaf (.text _) => true
  | _ => false

end Piece

/-- The lexemes that pieces are printed as, which follow a text if `afterText` holds: texts have an empty tag between
them. -/
def lexemes (afterText : Bool) : List Piece → List Lexeme
  | [] => []
  | p :: ps => (if afterText && p.isText then [.tag [] true] else []) ++ p.lexeme :: lexemes p.isText ps

theorem print_paddedBody (mark : List Char) (n : String) :
    (Lexeme.tag (paddedBody mark n) true).print = Template.printTag mark n := by
  simp [Lexeme.print, paddedBody, Template.printTag, Template.opening, Template.closing]

/-- A piece that is no text is printed as its lexeme, whatever is in front of it. -/
theorem printAll_lexemes_cons {p : Piece} (hp : p.isText = false) (afterText : Bool) (ps : List Piece) :
    Lexeme.printAll (lexemes afterText (p :: ps)) = p.lexeme.print ++ Lexeme.printAll (lexemes false ps) := by
  rw [lexemes, hp, Bool.and_false]
  rfl

/-- **A template is printed as its pieces are**, and so are pieces that follow it and do not begin with text. -/
theorem printAll_lexemes (t : Template) (afterText : Bool) (ps : List Piece)
    (hps : ∀ after, lexemes after ps = lexemes false ps) :
    Lexeme.printAll (lexemes afterText (t.toPieces ++ ps)) =
      t.printAfter afterText ++ Lexeme.printAll (lexemes false ps) := by
  induction t generalizing afterText ps with
  | nil =>
    rw [Template.toPieces, List.nil_append, hps]
    rfl
  | leaf l r ih =>
    rw [Template.toPieces, List.cons_append]
    cases l with
    | text s =>
      rw [Template.printAfter, List.append_assoc, ← ih true ps hps]
      cases afterText <;> simp [lexemes, Piece.isText, Piece.lexeme, Lexeme.printAll, Lexeme.print,
        Template.emptyTag, Template.opening, Template.closing]
    | name n =>
      rw [printAll_lexemes_cons rfl, ih false ps hps, Template.printAfter, Piece.lexeme, print_paddedBody,
        List.append_assoc]
    | raw n =>
      rw [printAll_lexemes_cons rfl, ih false ps hps, Template.printAfter, Piece.lexeme, print_paddedBody,
        List.append_assoc]
    | inclusion n =>
      rw [printAll_lexemes_cons rfl, ih false ps hps, Template.printAfter, Piece.lexeme, print_paddedBody,
        List.append_assoc]
  | block k n b r ihb ihr =>
    -- The body is followed by the closing piece, so it does not matter what the body ends in.
    have hbody := ihb false (.closing n :: (r.toPieces ++ ps)) fun after => by cases after <;> rfl
    rw [Template.toPieces, List.cons_append, List.append_assoc, List.cons_append, printAll_lexemes_cons rfl, hbody,
      printAll_lexemes_cons rfl, ihr false ps hps, Template.printAfter]
    simp only [Piece.lexeme, print_paddedBody, List.append_assoc]

/-! ### Lexemes are read as their pieces -/

theorem noDelimiter_of_ne {c d : Char} (hopening : c ≠ '{') (hclosing : c ≠ '}') : NoDelimiter c d :=
  ⟨fun h => absurd h hopening, fun h => absurd h hclosing⟩

/-- The body of a tag is free of delimiters if the name is, since blanks keep the mark and the end away from it. -/
theorem hasDelimiter_paddedBody {mark : List Char} {n : String} (hmark : hasDelimiter mark = false)
    (hn : hasDelimiter n.toList = false) : hasDelimiter (paddedBody mark n) = false := by
  rw [hasDelimiter_eq_false_iff] at hmark hn ⊢
  rw [paddedBody, List.isChain_append, List.isChain_cons, List.isChain_append]
  have hblank {c : Char} : NoDelimiter ' ' c := noDelimiter_of_ne (by decide) (by decide)
  have hblank' {c : Char} : NoDelimiter c ' ' := ⟨fun _ => by decide, fun _ => by decide⟩
  refine ⟨hmark, ⟨fun _ _ => hblank, hn, List.isChain_singleton _, ?_⟩, ?_⟩
  · rintro c - d hd
    obtain rfl : ' ' = d := by simpa using hd
    exact hblank'
  · rintro c - d hd
    obtain rfl : ' ' = d := by simpa using hd
    exact hblank'

/-- A tag with a blank on either side of a clean name can be told apart from what surrounds it. -/
theorem isSound_paddedBody {mark : List Char} {n : String} (hmark : hasDelimiter mark = false) (hn : IsCleanName n) :
    (Lexeme.tag (paddedBody mark n) true).IsSound := by
  have hlast : (paddedBody mark n).getLast? = some ' ' := by
    rw [paddedBody, ← List.cons_append, ← List.append_assoc, List.getLast?_concat]
  refine ⟨hasDelimiter_paddedBody hmark hn.2, ?_, ?_⟩
  · simp [hlast]
  · simp [hlast]

namespace Piece

theorem isSound_lexeme {p : Piece} (hp : p.IsClean) : p.lexeme.IsSound := by
  cases p with
  | leaf l =>
    cases l with
    | text s => exact hp.2
    | name n => exact isSound_paddedBody rfl hp
    | raw n => exact isSound_paddedBody rfl hp
    | inclusion n => exact isSound_paddedBody rfl hp
  | opening k n => cases k <;> exact isSound_paddedBody rfl hp
  | closing n => exact isSound_paddedBody rfl hp

/-- **A clean piece is what its lexeme contributes.** -/
theorem pieces_lexeme {p : Piece} (hp : p.IsClean) : p.lexeme.pieces = [p] := by
  have hname {n : String} (hn : IsCleanName n) : nameOf (' ' :: (n.toList ++ [' '])) = n :=
    nameOf_of_isPadded (isPadded_spaces n) hn
  cases p with
  | leaf l =>
    cases l with
    | text s => rw [lexeme, Lexeme.pieces, ofText_toList hp.1]; rfl
    | name n =>
      have hunmarked : IsUnmarked (paddedBody [] n) := ⟨' ', _, rfl, by decide⟩
      rw [lexeme, Lexeme.pieces, ofTag_of_isUnmarked hunmarked, paddedBody, List.nil_append, hname hp]
      rfl
    | raw n => simp [lexeme, Lexeme.pieces, paddedBody, ofTag, hname hp]
    | inclusion n => simp [lexeme, Lexeme.pieces, paddedBody, ofTag, hname hp]
  | opening k n => cases k <;> simp [lexeme, Lexeme.pieces, paddedBody, ofTag, BlockKind.mark, hname hp]
  | closing n => simp [lexeme, Lexeme.pieces, paddedBody, ofTag, hname hp]

end Piece

theorem isSound_of_mem_lexemes {afterText : Bool} {ps : List Piece} (h : ∀ p ∈ ps, p.IsClean) {l : Lexeme}
    (hl : l ∈ lexemes afterText ps) : l.IsSound := by
  induction ps generalizing afterText with
  | nil => cases hl
  | cons p ps ih =>
    rw [lexemes, List.mem_append, List.mem_cons] at hl
    rcases hl with hl | rfl | hl
    · split at hl
      · obtain rfl := List.mem_singleton.mp hl
        decide
      · cases hl
    · exact Piece.isSound_lexeme (h p List.mem_cons_self)
    · exact ih (fun q hq => h q (List.mem_cons_of_mem p hq)) hl

theorem flatMap_pieces_lexemes {afterText : Bool} {ps : List Piece} (h : ∀ p ∈ ps, p.IsClean) :
    (lexemes afterText ps).flatMap Lexeme.pieces = ps := by
  induction ps generalizing afterText with
  | nil => rfl
  | cons p ps ih =>
    have hseparator : (if afterText && p.isText then [Lexeme.tag [] true] else []).flatMap Lexeme.pieces = [] := by
      split <;> rfl
    rw [lexemes, List.flatMap_append, hseparator, List.nil_append, List.flatMap_cons,
      Piece.pieces_lexeme (h p List.mem_cons_self), ih fun q hq => h q (List.mem_cons_of_mem p hq)]
    rfl

/-- What is printed after a text begins with a tag. -/
theorem exists_tag_of_mem_head?_lexemes {ps : List Piece} {l : Lexeme} (hl : l ∈ (lexemes true ps).head?) :
    ps ≠ [] ∧ ∃ body long, l = .tag body long := by
  cases ps with
  | nil => cases hl
  | cons p ps =>
    refine ⟨List.cons_ne_nil p ps, ?_⟩
    cases p with
    | leaf q => cases q <;> cases hl <;> exact ⟨_, _, rfl⟩
    | opening k n => cases hl; exact ⟨_, _, rfl⟩
    | closing n => cases hl; exact ⟨_, _, rfl⟩

theorem isChained_cons {l : Lexeme} {ls : List Lexeme} :
    IsChained (l :: ls) ↔ (∀ m ∈ ls.head?, l.MayPrecede m) ∧ IsChained ls := by
  cases ls with
  | nil => simp [IsChained]
  | cons m ls => simp [IsChained]

/-- A tag that is closed by three braces may come before anything. -/
theorem mayPrecede_of_long (body : List Char) (m : Lexeme) : (Lexeme.tag body true).MayPrecede m := by
  cases m with
  | text cs => exact fun _ => rfl
  | tag body' long => trivial

/-- **Lexemes that are printed do not run together**, if nothing follows a text that ends in an opening brace. -/
theorem isChained_lexemes {afterText : Bool} {ps : List Piece} (h : BraceIsLast ps) :
    IsChained (lexemes afterText ps) := by
  induction ps generalizing afterText with
  | nil => trivial
  | cons p ps ih =>
    have hp : IsChained (p.lexeme :: lexemes p.isText ps) := by
      refine isChained_cons.mpr ⟨fun m hm => ?_, ih h.tail⟩
      cases p with
      | leaf l =>
        cases l with
        | text s =>
          obtain ⟨hps, body, long, rfl⟩ := exists_tag_of_mem_head?_lexemes hm
          exact fun hlast => hps (h [] ps s rfl hlast)
        | name n => exact mayPrecede_of_long _ m
        | raw n => exact mayPrecede_of_long _ m
        | inclusion n => exact mayPrecede_of_long _ m
      | opening k n => exact mayPrecede_of_long _ m
      | closing n => exact mayPrecede_of_long _ m
    rw [lexemes]
    split
    · exact isChained_cons.mpr ⟨fun m _ => mayPrecede_of_long [] m, hp⟩
    · exact hp

/-- **Printed pieces are read back.** -/
theorem pieces_printAll_lexemes {ps : List Piece} (hclean : ∀ p ∈ ps, p.IsClean) (hbrace : BraceIsLast ps) :
    pieces (Lexeme.printAll (lexemes false ps)) = ps := by
  rw [pieces_printAll (fun _ => isSound_of_mem_lexemes hclean) (isChained_lexemes hbrace),
    flatMap_pieces_lexemes hclean]

/-! ### Printing and reading back -/

namespace Template

theorem print_of_ne_nil {t : Template} (h : t ≠ nil) : t.print = String.ofList (t.printAfter false) := by
  cases t with
  | nil => exact absurd rfl h
  | leaf l r => rfl
  | block k n b r => rfl

/-- A printed template has the pieces of the template. -/
theorem pieces_print {t : Template} (hclean : ∀ p ∈ t.toPieces, p.IsClean) (hbrace : BraceIsLast t.toPieces) :
    pieces t.print.toList = t.toPieces := by
  by_cases ht : t = nil
  · subst ht
    rfl
  · have hprint : Lexeme.printAll (lexemes false t.toPieces) = t.printAfter false := by
      have h := printAll_lexemes t false [] fun _ => rfl
      simpa [lexemes, Lexeme.printAll] using h
    rw [print_of_ne_nil ht, String.toList_ofList, ← hprint, pieces_printAll_lexemes hclean hbrace]

/-- **What is read can be printed and read back**, whatever the source was. The template is clean, nothing follows a
text in it that ends in an opening brace, and what it is printed as is source that is read as the same template. -/
theorem parse_print_of_parse {s : String} {t : Template} (h : parse s = .ok t) :
    t.IsClean ∧ BraceIsLast t.toPieces ∧ t.print ≠ "" ∧ parse t.print = .ok t := by
  have hbrace : BraceIsLast t.toPieces := braceIsLast_of_parse h
  have hback : parse t.print = .ok t :=
    parse_of_toPieces (pieces_print (fun _ => isClean_of_mem_toPieces h) hbrace).symm
  refine ⟨isClean_of_parse h, hbrace, fun hempty => ?_, hback⟩
  -- Empty source would be read as the empty template, which is not printed as empty source.
  rw [hempty] at hback
  obtain rfl : nil = t := Except.ok.inj hback
  exact absurd hempty (by decide)

/-- Source with braces at the borders of texts, two texts with a comment between them, a delimiter without partner, and
a tag whose name begins with a mark. -/
def bracedSource : String :=
  "\x7da\x7b\x7b!c\x7d\x7db\x7b\x7b# s \x7d\x7d" ++
    "\x7b\x7b\x7b y \x7d\x7d\x7d\x7dz\x7b\x7b^s\x7d\x7d\x7b\x7b\x7d\x7d\x7b\x7b/s\x7d\x7d" ++
    "\x7b\x7b/s\x7d\x7du\x7d\x7d #\x7dv\x7b\x7bw\x7b"

/-- The template that the source is read as. -/
def braced : Template :=
  .leaf (.text "\x7da") (.leaf (.text "b")
    (.block .plain "s" (.leaf (.raw "y") (.leaf (.text "\x7dz") (.block .inverted "s" .nil .nil)))
      (.leaf (.text "u") (.leaf (.name "#\x7dv") (.leaf (.text "w\x7b") .nil)))))

/-- The comment has become an empty tag, and the delimiter without partner has one. -/
theorem parse_print_of_parse_braced :
    parse bracedSource = .ok braced ∧
      braced.print = "\x7da\x7b\x7b\x7d\x7d\x7db\x7b\x7b# s \x7d\x7d\x7d\x7b\x7b& y \x7d\x7d\x7d\x7dz" ++
        "\x7b\x7b^ s \x7d\x7d\x7d\x7b\x7b/ s \x7d\x7d\x7d" ++
        "\x7b\x7b/ s \x7d\x7d\x7du\x7b\x7b #\x7dv \x7d\x7d\x7dw\x7b" ∧
      braced.IsClean ∧ BraceIsLast braced.toPieces ∧ braced.print ≠ "" ∧ parse braced.print = .ok braced :=
  have hparse : parse bracedSource = .ok braced := by decide
  ⟨hparse, by decide, parse_print_of_parse hparse⟩

end Template

end Stencil
