import Stencil.Text.Printable

/-!
# Quoted text

Text inside a printed value stands between quotes. The quotes are single, unless the text has a single
quote and no double quote. Inside, the quote itself and the backslash are escaped by a backslash, the
tabulator and the two line ends have letters, and any other character that is not printable is shown
by its number in the shortest of three widths: `\xNN`, `\uNNNN`, `\UNNNNNNNN`.

Bytes are quoted by the same rule after a `b`, except that bytes outside printable ASCII are always
shown by number.
-/

namespace Stencil.Text

/-- The lower case hexadecimal digit of a number below sixteen. -/
def hexDigit (n : Nat) : Char := if n < 10 then Char.ofNat (48 + n) else Char.ofNat (87 + n)

/-- The last `width` hexadecimal digits of a number, in front of `rest`. -/
def hexDigitsOnto : (width n : Nat) → (rest : List Char) → List Char
  | 0, _, rest => rest
  | w + 1, n, rest => hexDigitsOnto w (n / 16) (hexDigit (n % 16) :: rest)

/-- The last `width` hexadecimal digits of a number. -/
def hexDigits (width n : Nat) : List Char := hexDigitsOnto width n []

/-- A character shown by its number. -/
def numericEscape (n : Nat) : List Char :=
  if n < 0x100 then '\\' :: 'x' :: hexDigits 2 n
  else if n < 0x10000 then '\\' :: 'u' :: hexDigits 4 n
  else '\\' :: 'U' :: hexDigits 8 n

/-- How a character is written between quotes of the given form. -/
def quotedChar (quote c : Char) : List Char :=
  if c = quote || c = '\\' then ['\\', c]
  else if c = '\n' then ['\\', 'n']
  else if c = '\r' then ['\\', 'r']
  else if c = '\t' then ['\\', 't']
  else if (32 ≤ c.toNat && c.toNat < 127) || isPrintable c then [c]
  else numericEscape c.toNat

/-- The quote that a text is written between. -/
def quoteFor (cs : List Char) : Char :=
  if cs.contains '\'' && !cs.contains '"' then '"' else '\''

/-- The text between quotes. -/
def quoted (s : String) : String :=
  let cs := s.toList
  let q := quoteFor cs
  String.ofList (q :: (cs.flatMap (quotedChar q) ++ [q]))

/-- How a byte is written between quotes of the given form. -/
def quotedByte (quote : Char) (b : UInt8) : List Char :=
  if b < 127 then quotedChar quote (Char.ofNat b.toNat) else numericEscape b.toNat

/-- The quote that bytes are written between. -/
def quoteForBytes (bytes : List UInt8) : Char := quoteFor (bytes.map fun b => Char.ofNat b.toNat)

/-- Bytes between quotes, after the letter `b`. -/
def quotedBytes (bytes : List UInt8) : String :=
  let q := quoteForBytes bytes
  String.ofList ('b' :: q :: (bytes.flatMap (quotedByte q) ++ [q]))

/-- Bytes of a buffer between quotes, after the letter `b`. Here a single quote is escaped between
double quotes, too. -/
def quotedBuffer (bytes : List UInt8) : String :=
  let q := quoteForBytes bytes
  String.ofList ('b' :: q :: (bytes.flatMap (fun b => if b = 39 then ['\\', '\''] else quotedByte q b) ++ [q]))

end Stencil.Text
