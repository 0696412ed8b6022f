/-!
# Escaping markup

Five characters have a meaning in markup. Escaping writes each of them as an *entity*. `escape` does so
character by character. `escapeInTurn` replaces one character after the other throughout the text, the
ampersand first since the entities begin with it; the two agree.
-/

namespace Stencil.Text

/-- The entity that stands for a markup character. -/
def entity? : Char → Option (List Char)
  | '&' => some ['&', 'a', 'm', 'p', ';']
  | '<' => some ['&', 'l', 't', ';']
  | '>' => some ['&', 'g', 't', ';']
  | '"' => some ['&', 'q', 'u', 'o', 't', ';']
  | '\'' => some ['&', 'a', 'p', 'o', 's', ';']
  | _ => none

/-- How a character is written in markup. -/
def escapeChar (c : Char) : List Char := (entity? c).getD [c]

/-- A text written in markup. -/
def escapeChars (cs : List Char) : List Char := cs.flatMap escapeChar

/-- A text written in markup. -/
def escape (s : String) : String := String.ofList (escapeChars s.toList)

/-- The text with every occurrence of a character replaced by a word. -/
def replaceChar (c : Char) (word : List Char) (cs : List Char) : List Char :=
  cs.flatMap fun d => if d = c then word else [d]

/-- The markup characters in the order in which `escapeInTurn` replaces them. -/
def escapeOrder : List Char := ['&', '<', '>', '"', '\'']

/-- The text with the markup characters replaced by their entities one after the other. -/
def escapeInTurn (cs : List Char) : List Char :=
  escapeOrder.foldl (fun text c => replaceChar c (escapeChar c) text) cs

/-- The text that a text in markup stands for, reading from left to right. An ampersand that begins no
entity stands for itself. -/
def unescapeChars : List Char → List Char
  | '&' :: 'a' :: 'm' :: 'p' :: ';' :: cs => '&' :: unescapeChars cs
  | '&' :: 'l' :: 't' :: ';' :: cs => '<' :: unescapeChars cs
  | '&' :: 'g' :: 't' :: ';' :: cs => '>' :: unescapeChars cs
  | '&' :: 'q' :: 'u' :: 'o' :: 't' :: ';' :: cs => '"' :: unescapeChars cs
  | '&' :: 'a' :: 'p' :: 'o' :: 's' :: ';' :: cs => '\'' :: unescapeChars cs
  | c :: cs => c :: unescapeChars cs
  | [] => []

end Stencil.Text
