import Stencil.Text.Blank
import Stencil.Template.Basic

/-!
# Spellings of templates

The same template can be written in many ways: blanks around the names in tags, two or three braces at the
end of a tag, two marks for interpolation without escaping, and comments and empty tags wherever a part may
stand. A spelling is a list of *lexemes*, texts and tags. `Spelled t ls` says that the lexemes `ls` spell
the template `t`.

Braces at the borders of texts and tags can run together with delimiters. `IsLegible` rules that out, so
that the lexemes can be told apart in the text that they make.
-/

namespace Stencil

/-- A stretch of source: text, or a tag with its body, closed by three braces if `long` holds and else
by two. -/
inductive Lexeme
  | text (cs : List Char)
  | tag (body : List Char) (long : Bool)
  deriving DecidableEq, Repr

namespace Lexeme

/-- A lexeme as source. -/
def print : Lexeme → List Char
  | text cs => cs
  | tag body true => ['{', '{'] ++ body ++ ['}', '}', '}']
  | tag body false => ['{', '{'] ++ body ++ ['}', '}']

/-- Lexemes as source. -/
def printAll (ls : List Lexeme) : List Char := ls.flatMap print

end Lexeme

/-- Whether characters are a name with blanks around it. -/
def IsPadded (name : String) (cs : List Char) : Prop :=
  ∃ before after : List Char, (∀ c ∈ before, Text.isBlank c) ∧ (∀ c ∈ after, Text.isBlank c) ∧
    cs = before ++ name.toList ++ after

/-- The characters that say what a tag is if they come first in it. -/
def tagMarks : List Char := ['!', '#', '^', '/', '>', '&', '{']

/-- Whether the body of a tag is not empty and begins with no mark. -/
def IsUnmarked (body : List Char) : Prop := ∃ c cs, body = c :: cs ∧ c ∉ tagMarks

/-- The mark of the tag that opens a block. -/
def BlockKind.mark : BlockKind → Char
  | .plain => '#'
  | .inverted => '^'

/-- The lexemes that spell a template. -/
inductive Spelled : Template → List Lexeme → Prop
  | nil : Spelled .nil []
  | comment {t : Template} {ls : List Lexeme} (cs : List Char) (long : Bool) :
    Spelled t ls → Spelled t (.tag ('!' :: cs) long :: ls)
  | empty {t : Template} {ls : List Lexeme} (long : Bool) : Spelled t ls → Spelled t (.tag [] long :: ls)
  | text {t : Template} {ls : List Lexeme} (s : String) :
    Spelled t ls → Spelled (.leaf (.text s) t) (.text s.toList :: ls)
  | name {t : Template} {ls : List Lexeme} {n : String} {cs : List Char} (long : Bool) :
    IsUnmarked cs → IsPadded n cs → Spelled t ls → Spelled (.leaf (.name n) t) (.tag cs long :: ls)
  | raw {t : Template} {ls : List Lexeme} {n : String} {cs : List Char} {mark : Char} (long : Bool) :
    mark = '&' ∨ mark = '{' → IsPadded n cs → Spelled t ls →
    Spelled (.leaf (.raw n) t) (.tag (mark :: cs) long :: ls)
  | inclusion {t : Template} {ls : List Lexeme} {n : String} {cs : List Char} (long : Bool) :
    IsPadded n cs → Spelled t ls → Spelled (.leaf (.inclusion n) t) (.tag ('>' :: cs) long :: ls)
  | block {body rest : Template} {inner outer : List Lexeme} {n : String} {opening closing : List Char}
    (kind : BlockKind) (longOpening longClosing : Bool) :
    IsPadded n opening → IsPadded n closing → Spelled body inner → Spelled rest outer →
    Spelled (.block kind n body rest)
      (.tag (kind.mark :: opening) longOpening :: (inner ++ .tag ('/' :: closing) longClosing :: outer))

/-! ### Clean templates -/

/-- Whether two braces of the same kind stand next to each other. -/
def hasDelimiter : List Char → Bool
  | '{' :: '{' :: _ => true
  | '}' :: '}' :: _ => true
  | _ :: cs => hasDelimiter cs
  | [] => false

/-- Whether a name is trimmed and free of delimiters. -/
def IsCleanName (n : String) : Prop := Text.trim n.toList = n.toList ∧ hasDelimiter n.toList = false

instance (n : String) : Decidable (IsCleanName n) := inferInstanceAs (Decidable (_ ∧ _))

/-- Whether text is not empty and free of delimiters, and names are clean. -/
def Item.IsClean : Item → Prop
  | .leaf (.text s) => s ≠ "" ∧ hasDelimiter s.toList = false
  | .leaf (.name n) => IsCleanName n
  | .leaf (.raw n) => IsCleanName n
  | .leaf (.inclusion n) => IsCleanName n
  | .block _ n => IsCleanName n

instance : DecidablePred Item.IsClean
  | .leaf (.text _) => inferInstanceAs (Decidable (_ ∧ _))
  | .leaf (.name n) => inferInstanceAs (Decidable (IsCleanName n))
  | .leaf (.raw n) => inferInstanceAs (Decidable (IsCleanName n))
  | .leaf (.inclusion n) => inferInstanceAs (Decidable (IsCleanName n))
  | .block _ n => inferInstanceAs (Decidable (IsCleanName n))

/-- Whether all texts and names of a template can be written in source as they are. -/
def Template.IsClean (t : Template) : Prop := ∀ i ∈ t.items, i.IsClean

instance (t : Template) : Decidable t.IsClean := inferInstanceAs (Decidable (∀ i ∈ t.items, i.IsClean))

/-! ### Legible spellings -/

/-- Whether a lexeme is free of delimiters inside, and a tag does not end in a brace. -/
def Lexeme.IsSound : Lexeme → Prop
  | .text cs => hasDelimiter cs = false
  | .tag body _ => hasDelimiter body = false ∧ body.getLast? ≠ some '{' ∧ body.getLast? ≠ some '}'

instance : DecidablePred Lexeme.IsSound
  | .text _ => inferInstanceAs (Decidable (_ = _))
  | .tag _ _ => inferInstanceAs (Decidable (_ ∧ _ ∧ _))

/-- Whether a lexeme may come right before another one: texts are not adjacent, a text that ends in a
brace is the last lexeme, and a text that begins with one follows three. -/
def Lexeme.MayPrecede : Lexeme → Lexeme → Prop
  | .text _, .text _ => False
  | .text cs, .tag .. => cs.getLast? ≠ some '{'
  | .tag _ long, .text cs => cs.head? = some '}' → long = true
  | .tag .., .tag .. => True

instance : (a b : Lexeme) → Decidable (a.MayPrecede b)
  | .text _, .text _ => inferInstanceAs (Decidable False)
  | .text _, .tag .. => inferInstanceAs (Decidable (_ ≠ _))
  | .tag _ _, .text _ => inferInstanceAs (Decidable (_ → _))
  | .tag .., .tag .. => inferInstanceAs (Decidable True)

/-- Whether every lexeme may precede the next one. -/
def IsChained : List Lexeme → Prop
  | a :: b :: ls => a.MayPrecede b ∧ IsChained (b :: ls)
  | _ => True

/-- Whether lexemes are chained is decided pair by pair. -/
def IsChained.decide : (ls : List Lexeme) → Decidable (IsChained ls)
  | [] => inferInstanceAs (Decidable True)
  | [_] => inferInstanceAs (Decidable True)
  | a :: b :: ls =>
    have := IsChained.decide (b :: ls)
    inferInstanceAs (Decidable (a.MayPrecede b ∧ IsChained (b :: ls)))

instance : DecidablePred IsChained := IsChained.decide

/-- Whether lexemes can be told apart in the source that they make, which must not be empty. -/
structure IsLegible (ls : List Lexeme) : Prop where
  sound : ∀ l ∈ ls, l.IsSound
  chained : IsChained ls
  nonempty : Lexeme.printAll ls ≠ []

end Stencil
