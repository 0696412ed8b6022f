/-!
# Quotients of natural numbers

Floating point numbers and decimals are read and written through exact quotients `n / d` with a positive
denominator. Here are the three operations that this needs: scaling by a power, rounding to the nearest
integer, and the position of the leading decimal digit.
-/

namespace Stencil.Number

/-- The quotient `n / d` times `b ^ e`, as a pair of numerator and denominator. -/
def scaleBy (b : Nat) (e : Int) (q : Nat × Nat) : Nat × Nat :=
  if e < 0 then (q.1, q.2 * Nat.pow b e.natAbs) else (q.1 * Nat.pow b e.natAbs, q.2)

/-- The quotient rounded to the nearest integer; a tie goes to the even neighbour. -/
def roundEven (q : Nat × Nat) : Nat :=
  let floor := q.1 / q.2
  let twice := 2 * (q.1 % q.2)
  if twice < q.2 then floor else if q.2 < twice then floor + 1 else floor + floor % 2

/-- The exponent of the greatest power of ten that is at most the quotient, which is positive. -/
def leadingExponent (q : Nat × Nat) : Int :=
  if q.2 ≤ q.1 then ((Nat.repr (q.1 / q.2)).length : Int) - 1
  else
    let l := (Nat.repr (q.2 / q.1)).length
    if q.2 ≤ q.1 * Nat.pow 10 (l - 1) then -((l : Int) - 1) else -(l : Int)

end Stencil.Number
