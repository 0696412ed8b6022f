import Stencil.Text.Digit
import Stencil.Number.Integer

/-!
# Numerals with a point and an exponent

The common notation of floating point numbers and decimals: a sign, digits with at most one point among
them, and an exponent after the letter `e`. What it denotes is a coefficient and a power of ten.
-/

namespace Stencil.Number

/-- A decimal numeral: plus or minus `coefficient` times ten to the `exponent`. -/
structure Numeral where
  negative : Bool
  coefficient : Nat
  exponent : Int
  deriving DecidableEq, Repr

/-- The digit values that a text begins with, and the rest of it. -/
def spanDigits : List Char → List Nat × List Char
  | [] => ([], [])
  | c :: cs =>
    match Text.digitValue? c with
    | some d => ((d :: (spanDigits cs).1), (spanDigits cs).2)
    | none => ([], c :: cs)

/-- The sign that a text begins with, where minus is `true`, and the rest of it. -/
def spanSign : List Char → Bool × List Char
  | '-' :: cs => (true, cs)
  | '+' :: cs => (false, cs)
  | cs => (false, cs)

/-- The digits after the point that a text begins with, if it begins with a point. -/
def spanFraction : List Char → List Nat × List Char
  | '.' :: cs => spanDigits cs
  | cs => ([], cs)

/-- The exponent that makes up the whole text; an empty text stands for zero. -/
def readExponent : List Char → Option Int
  | [] => some 0
  | c :: cs =>
    if c = 'e' || c = 'E' then
      let (negative, ds) := spanSign cs
      match spanDigits ds with
      | (d :: ds, []) => some (if negative then -(ofDigits (d :: ds) : Int) else ofDigits (d :: ds))
      | _ => none
    else none

/-- The numeral that makes up the whole text. -/
def readNumeral (cs : List Char) : Option Numeral :=
  let (negative, cs) := spanSign cs
  let (whole, cs) := spanDigits cs
  let (fraction, cs) := spanFraction cs
  if whole.isEmpty && fraction.isEmpty then none
  else
    (readExponent cs).map fun e => ⟨negative, ofDigits (whole ++ fraction), e - fraction.length⟩

end Stencil.Number
