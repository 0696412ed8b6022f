import Stencil.Text.Blank
import Stencil.Text.Digit

/-!
# Integers as text

An integer is read from a numeral: digits of any script, with single underscores allowed between two
digits, a sign in front, and blanks at both ends. The information separators U+001C to U+001F are not
allowed as blanks here, although they are trimmed from names.

Numerals of more than `digitLimit` digits are neither read nor written.
-/

namespace Stencil.Number

/-- The greatest number of digits that a numeral may have. -/
def digitLimit : Nat := 4300

/-- The blanks allowed around a numeral. -/
def isNumeralBlank (c : Char) : Bool :=
  Text.isBlank c && !(0x1C ≤ c.toNat && c.toNat ≤ 0x1F)

/-- The values of the digits of an unsigned numeral, if it is one. -/
def readDigits : List Char → Option (List Nat)
  | [] => none
  | [c] => (Text.digitValue? c).map ([·])
  | c :: '_' :: cs => do
    let d ← Text.digitValue? c
    let ds ← readDigits cs
    some (d :: ds)
  | c :: cs => do
    let d ← Text.digitValue? c
    let ds ← readDigits cs
    some (d :: ds)

/-- The number with the given decimal digits, most significant first. -/
def ofDigits (ds : List Nat) : Nat := ds.foldl (fun n d => 10 * n + d) 0

/-- The number that an unsigned numeral stands for. -/
def readNatural (cs : List Char) : Option Nat := do
  let ds ← readDigits cs
  if ds.length ≤ digitLimit then some (ofDigits ds) else none

/-- The numeral without the blanks around it. -/
def trimNumeral (cs : List Char) : List Char :=
  ((cs.dropWhile isNumeralBlank).reverse.dropWhile isNumeralBlank).reverse

/-- The integer that a numeral stands for; `none` for any text that is not a numeral. -/
def readInteger (cs : List Char) : Option Int :=
  match trimNumeral cs with
  | '-' :: ds => (readNatural ds).map fun n => -(n : Int)
  | '+' :: ds => (readNatural ds).map fun n => (n : Int)
  | ds => (readNatural ds).map fun n => (n : Int)

/-- The number of decimal digits of a number, one for zero. -/
def digitCount (n : Nat) : Nat := (Nat.repr n).length

/-- The integer as a numeral, unless that has too many digits. -/
def integerText? (n : Int) : Option String :=
  let digits := Nat.repr n.natAbs
  if digits.length ≤ digitLimit then some (if n < 0 then "-" ++ digits else digits) else none

end Stencil.Number
