/-!
# Sets of characters as intervals of code points

The properties of characters that the library consults are unions of intervals of code points, written
as lists of closed intervals in increasing order. Membership looks at one interval after the other, and
stops at the first that begins beyond the character.
-/

namespace Stencil.Text

/-- Whether the code point `n` lies in one of the intervals, which come in increasing order. -/
def inIntervals (n : Nat) : List (Nat × Nat) → Bool
  | [] => false
  | (low, high) :: rest => low ≤ n && (n ≤ high || inIntervals n rest)

end Stencil.Text
