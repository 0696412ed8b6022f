import Stencil.Number.Quotient
import Stencil.Number.Numeral

/-!
# Floating point numbers

The values of the binary64 format, as exact data: a finite number is plus or minus a significand below
`2 ^ 53` times a power of two. Every finite number has one representation here, as the constructor
function `Binary64.ofQuotient` takes the smallest possible exponent. It rounds to the nearest number of
the format, a tie going to the even significand, and every operation of this module that has to round
goes through it.

Printing chooses the shortest decimal that reads back as the number, and of two such the one nearer to
it. It is positional from `10 ^ -4` up to `10 ^ 16` and has an exponent of at least two digits beyond.
-/

namespace Stencil.Number

/-- A floating point number. -/
inductive Binary64
  | nan
  | infinity (negative : Bool)
  /-- Plus or minus `significand` times two to the `exponent`. -/
  | finite (negative : Bool) (significand : Nat) (exponent : Int)
  deriving DecidableEq, Repr, Inhabited

namespace Binary64

/-- The smallest exponent of the format. -/
def minExponent : Int := -1074

/-- The greatest exponent of the format. -/
def maxExponent : Int := 971

/-- Positive zero. -/
def zero : Binary64 := .finite false 0 minExponent

/-- The exponent with which the quotient, which is positive, has a significand of 53 bits, or the
smallest exponent if that is greater. -/
def exponentFor (q : Nat × Nat) : Int :=
  let l : Int := (q.1.log2 : Int) - q.2.log2
  let (n, d) := scaleBy 2 (-l) q
  max minExponent (if d ≤ n then l - 52 else l - 53)

/-- The number of the format nearest to a quotient with the given sign. -/
def ofQuotient (negative : Bool) (q : Nat × Nat) : Binary64 :=
  if q.1 = 0 then .finite negative 0 minExponent
  else
    let e := exponentFor q
    let m := roundEven (scaleBy 2 (-e) q)
    let (m, e) := if m = Nat.pow 2 53 then (Nat.pow 2 52, e + 1) else (m, e)
    if e ≤ maxExponent then .finite negative m e else .infinity negative

/-- The number nearest to a numeral. Numerals far beyond the range of the format are told by the
position of their leading digit. -/
def ofNumeral (n : Numeral) : Binary64 :=
  let leading := n.exponent + digitCount n.coefficient
  if n.coefficient = 0 || leading < -400 then .finite n.negative 0 minExponent
  else if 400 < leading then .infinity n.negative
  else ofQuotient n.negative (scaleBy 10 n.exponent (n.coefficient, 1))

/-- The number nearest to an integer. -/
def ofInt (n : Int) : Binary64 := ofQuotient (n < 0) (n.natAbs, 1)

/-- The number that a text denotes: a numeral, or a name of an infinity or of the undefined value. -/
def read (s : String) : Option Binary64 :=
  let cs := trimNumeral s.toList
  match readNumeral cs with
  | some n => some (ofNumeral n)
  | none =>
    let (negative, cs) := spanSign cs
    let word := String.ofList (cs.map Char.toLower)
    if word = "inf" || word = "infinity" then some (.infinity negative)
    else if word = "nan" then some .nan
    else none

/-- The size of a finite number as a quotient. -/
def magnitude (significand : Nat) (exponent : Int) : Nat × Nat := scaleBy 2 exponent (significand, 1)

/-- Whether the number is a zero of either sign. -/
def isZero : Binary64 → Bool
  | .finite _ 0 _ => true
  | _ => false

/-! ### Shortest decimals -/

/-- The decimals with `digits` digits next to the quotient, below and above, as coefficient and power
of ten. -/
def neighbours (q : Nat × Nat) (digits : Nat) : (Nat × Nat) × Int :=
  let e := leadingExponent q - (digits - 1 : Int)
  let (n, d) := scaleBy 10 (-e) q
  ((n / d, n / d + 1), e)

/-- Of the two decimals of `digits` digits next to a number, the one that reads back as the number, and
the nearer one if both do. -/
def decimalOf? (significand : Nat) (exponent : Int) (digits : Nat) : Option (Nat × Int) :=
  let q := magnitude significand exponent
  let ((low, high), e) := neighbours q digits
  let readsBack (c : Nat) := ofQuotient false (scaleBy 10 e (c, 1)) == .finite false significand exponent
  match readsBack low, readsBack high with
  | false, false => none
  | true, false => some (low, e)
  | false, true => some (high, e)
  | true, true => some (roundEven (scaleBy 10 (-e) q), e)

/-- The shortest decimal that reads back as a positive number. -/
def shortest (significand : Nat) (exponent : Int) : Nat × Int :=
  ((List.range' 1 17).findSome? (decimalOf? significand exponent)).getD (0, 0)

/-! ### Text -/

/-- An exponent with its sign and at least two digits. -/
def exponentText (e : Int) : String :=
  let digits := Nat.repr e.natAbs
  (if e < 0 then "-" else "+") ++ (if digits.length < 2 then "0" ++ digits else digits)

/-- A string of zeros. -/
def zeros (n : Nat) : String := String.ofList (List.replicate n '0')

/-- The digits with a point after the first `point` of them, zeros filling up to the point, and at
least one digit on either side of it. -/
def positional (digits : String) (point : Int) : String :=
  if point ≤ 0 then "0." ++ zeros point.natAbs ++ digits
  else
    let k := point.toNat
    if digits.length ≤ k then digits ++ zeros (k - digits.length) ++ ".0"
    else (digits.take k).toString ++ "." ++ (digits.drop k).toString

/-- The digits with a point after the first, unless it is the only one, and an exponent. -/
def scientific (digits : String) (e : Int) : String :=
  (digits.take 1).toString ++ (if digits.length ≤ 1 then "" else "." ++ (digits.drop 1).toString) ++ "e" ++
    exponentText e

/-- The coefficient without the zeros at its end. -/
def stripZeros (s : String) : String :=
  match s.toList.reverse.dropWhile (· == '0') with
  | [] => "0"
  | cs => String.ofList cs.reverse

/-- The text of a number. -/
def text : Binary64 → String
  | .nan => "nan"
  | .infinity negative => if negative then "-inf" else "inf"
  | .finite negative significand exponent =>
    (if negative then "-" else "") ++
      if significand = 0 then "0.0"
      else
        let (c, e) := shortest significand exponent
        let digits := stripZeros (Nat.repr c)
        let leading : Int := e + digitCount c - 1
        if -4 ≤ leading && leading < 16 then positional digits (leading + 1)
        else scientific digits leading

end Binary64

end Stencil.Number
