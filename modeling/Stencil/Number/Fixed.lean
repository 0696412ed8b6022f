import Stencil.Number.Binary64

/-!
# Floating point numbers with a given number of digits

Three notations with a precision: `fixed` has that many digits after the point, `exponential` one digit
before the point and that many after it, and `general` that many digits in all, in the notation that
suits the size of the number. The exact value is rounded, a tie going to the even digit.

Where `alternate` holds the point is always shown, and `general` keeps the zeros at its end.
-/

namespace Stencil.Number.Binary64

/-- The digits of a number, with zeros in front if there are fewer than `width`. -/
def paddedDigits (width n : Nat) : String :=
  let digits := Nat.repr n
  zeros (width - digits.length) ++ digits

/-- A point and the digits after it; no point is shown in front of nothing unless `alternate` holds. -/
def fraction (alternate : Bool) (digits : String) : String :=
  if digits.isEmpty && !alternate then "" else "." ++ digits

/-- A quotient with `places` digits after the point. -/
def fixed (alternate : Bool) (q : Nat × Nat) (places : Nat) : String :=
  let n := roundEven (scaleBy 10 places q)
  let digits := paddedDigits (places + 1) n
  let whole := digits.length - places
  (digits.take whole).toString ++ fraction alternate (digits.drop whole).toString

/-- The digits of a positive quotient rounded to `places + 1` of them, as a number and the exponent of
the first. -/
def roundedDigits (q : Nat × Nat) (places : Nat) : Nat × Int :=
  let e := leadingExponent q
  let n := roundEven (scaleBy 10 (places - e) q)
  if n = Nat.pow 10 (places + 1) then (Nat.pow 10 places, e + 1) else (n, e)

/-- A quotient with one digit before the point and `places` after it. -/
def exponential (alternate : Bool) (q : Nat × Nat) (places : Nat) : String :=
  let (n, e) := if q.1 = 0 then (0, 0) else roundedDigits q places
  let digits := paddedDigits (places + 1) n
  (digits.take 1).toString ++ fraction alternate (digits.drop 1).toString ++ "e" ++ exponentText e

/-- The part of a numeral before its exponent, without the zeros after the point at its end. -/
def dropTrailingZeros (s : String) : String :=
  let mantissa := s.toList.takeWhile (· != 'e')
  let exponent := s.toList.dropWhile (· != 'e')
  if mantissa.contains '.' then
    let cs := mantissa.reverse.dropWhile (· == '0')
    let cs := match cs with
      | '.' :: cs => cs
      | cs => cs
    String.ofList (cs.reverse ++ exponent)
  else s

/-- A quotient with `digits` significant digits: positionally for exponents from -4 up to the number of
digits, and with an exponent otherwise. -/
def general (alternate : Bool) (q : Nat × Nat) (digits : Nat) : String :=
  let p := max 1 digits
  let e := if q.1 = 0 then 0 else (roundedDigits q (p - 1)).2
  let s :=
    if -4 ≤ e && e < p then fixed alternate q ((p : Int) - 1 - e).toNat
    else exponential alternate q (p - 1)
  if alternate then s else dropTrailingZeros s

end Stencil.Number.Binary64
