import Stencil.Text.Letter

/-!
# Lower case and capitals of whole texts

`lower` maps a text character by character, except that a capital sigma becomes the final sigma at the
end of a word: where the nearest character before it that is not looked through has a case, and the
nearest one after it has not. `capitalize` writes the first character in title case and the others in
lower case.
-/

namespace Stencil.Text

/-- Whether the nearest character that is not looked through has a case. -/
def meetsCased (cs : List Char) : Bool :=
  match cs.dropWhile isCaseIgnorable with
  | [] => false
  | c :: _ => isCased c

/-- The lower case of a character, given the characters before it, nearest first, and after it. -/
def lowerAt (before : List Char) (c : Char) (after : List Char) : List Char :=
  if c = 'Σ' then
    if meetsCased before && !meetsCased after then ['ς'] else ['σ']
  else if c.toNat < 128 then [c.toLower]
  else lowerChar c

/-- The lower case of a text that follows the characters `before`, of which the nearest comes first. -/
def lowerAfter (before : List Char) : List Char → List Char
  | [] => []
  | c :: cs => lowerAt before c cs ++ lowerAfter (c :: before) cs

/-- The text in lower case. -/
def lower (s : String) : String := String.ofList (lowerAfter [] s.toList)

/-- The text with its first character in title case and the others in lower case. -/
def capitalize (s : String) : String :=
  match s.toList with
  | [] => ""
  | c :: cs => String.ofList (titleChar c ++ lowerAfter [c] cs)

end Stencil.Text
