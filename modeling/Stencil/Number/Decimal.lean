import Stencil.Number.Numeral
import Stencil.Number.Quotient

/-!
# Decimals

Decimal numbers keep the digits that they were written with: `1.50` and `1.5` are equal in size and have
different texts. A decimal is printed positionally when its exponent is not positive and its leading
digit stands at most six places after the point, and with an exponent after `E` otherwise.
-/

namespace Stencil.Number

/-- A decimal number, an infinity, or an undefined value, which may carry digits of its own. -/
inductive Decimal
  | finite (n : Numeral)
  | infinity (negative : Bool)
  | undefined (negative signaling : Bool) (payload : String)
  deriving DecidableEq, Repr

namespace Decimal

/-- An undefined value written as `nan` or `snan` with further digits. -/
def readUndefined (negative signaling : Bool) (cs : List Char) : Option Decimal :=
  match spanDigits cs with
  | (ds, []) => some (.undefined negative signaling (if ds.isEmpty then "" else Nat.repr (ofDigits ds)))
  | _ => none

/-- The decimal that a text denotes. -/
def read (s : String) : Option Decimal :=
  let cs := trimNumeral s.toList
  match readNumeral cs with
  | some n => some (.finite n)
  | none =>
    let (negative, cs) := spanSign cs
    match cs.map Char.toLower with
    | ['i', 'n', 'f'] => some (.infinity negative)
    | ['i', 'n', 'f', 'i', 'n', 'i', 't', 'y'] => some (.infinity negative)
    | 'n' :: 'a' :: 'n' :: ds => readUndefined negative false ds
    | 's' :: 'n' :: 'a' :: 'n' :: ds => readUndefined negative true ds
    | _ => none

/-- Whether the decimal is a zero. -/
def isZero : Decimal → Bool
  | .finite n => n.coefficient = 0
  | _ => false

/-- The digits of a decimal with a point after the first `point` of them. -/
def positional (digits : String) (point : Int) : String :=
  if point ≤ 0 then "0." ++ String.ofList (List.replicate point.natAbs '0') ++ digits
  else
    let k := point.toNat
    if digits.length ≤ k then digits ++ String.ofList (List.replicate (k - digits.length) '0')
    else (digits.take k).toString ++ "." ++ (digits.drop k).toString

/-- The text of a numeral as a decimal. -/
def numeralText (n : Numeral) : String :=
  let digits := Nat.repr n.coefficient
  let left : Int := n.exponent + digits.length
  let point := if n.exponent ≤ 0 && -6 < left then left else 1
  let power := left - point
  (if n.negative then "-" else "") ++ positional digits point ++
    if power = 0 then ""
    else "E" ++ (if power < 0 then "-" else "+") ++ Nat.repr power.natAbs

/-- The text of a decimal. -/
def text : Decimal → String
  | .finite n => numeralText n
  | .infinity negative => if negative then "-Infinity" else "Infinity"
  | .undefined negative signaling payload =>
    (if negative then "-" else "") ++ (if signaling then "sNaN" else "NaN") ++ payload

end Decimal

end Stencil.Number
