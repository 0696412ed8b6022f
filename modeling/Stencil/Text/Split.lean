/-!
# Cutting text

Cutting a text at a character, and cutting off everything up to a word.
-/

namespace Stencil.Text

/-- The parts of a text between the occurrences of a character, one more than there are occurrences. -/
def cutAt (sep : Char) : List Char → List (List Char)
  | [] => [[]]
  | c :: cs =>
    if c = sep then [] :: cutAt sep cs
    else
      match cutAt sep cs with
      | [] => [[c]]
      | d :: ds => (c :: d) :: ds

/-- What follows the first occurrence of a word in a text, if the word occurs. -/
def afterFirst? (word : List Char) : List Char → Option (List Char)
  | [] => if word.isEmpty then some [] else none
  | c :: cs =>
    if word.isPrefixOf (c :: cs) then some ((c :: cs).drop word.length) else afterFirst? word cs

end Stencil.Text
