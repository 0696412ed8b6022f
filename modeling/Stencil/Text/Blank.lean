/-!
# Blank characters and trimming

The names written inside tags are trimmed of the blank characters at both ends, so `trim` is applied
to every tag of every template. A character is *blank* when Unicode calls it white space or when it is
one of the four ASCII information separators (U+001C to U+001F). The zero width characters (U+200B,
U+FEFF) and the Mongolian vowel separator (U+180E) are not blank.
-/

namespace Stencil.Text

/-- The code points of the blank characters, as closed intervals in increasing order. -/
def blankIntervals : List (Nat × Nat) :=
  [(0x09, 0x0D), (0x1C, 0x20), (0x85, 0x85), (0xA0, 0xA0), (0x1680, 0x1680), (0x2000, 0x200A),
    (0x2028, 0x2029), (0x202F, 0x202F), (0x205F, 0x205F), (0x3000, 0x3000)]

/-- A character is blank when its code point lies in one of the `blankIntervals`. -/
def isBlank (c : Char) : Bool :=
  blankIntervals.any fun i => i.1 ≤ c.toNat && c.toNat ≤ i.2

/-- The text without its leading blank characters. -/
def trimLeft (cs : List Char) : List Char := cs.dropWhile isBlank

/-- The text without its trailing blank characters. -/
def trimRight : List Char → List Char
  | [] => []
  | c :: cs =>
    match trimRight cs with
    | [] => if isBlank c then [] else [c]
    | d :: ds => c :: d :: ds

/-- The text without the blank characters at its two ends. -/
def trim (cs : List Char) : List Char := trimRight (trimLeft cs)

/-! ### Trimming twice changes nothing -/

theorem trimLeft_eq_self_iff {cs : List Char} :
    trimLeft cs = cs ↔ ∀ c ∈ cs.head?, isBlank c = false := by
  cases cs with
  | nil => simp [trimLeft]
  | cons c cs =>
    by_cases h : isBlank c = true
    · simp only [trimLeft, List.dropWhile_cons, h, if_true, List.head?_cons, Option.mem_def,
        Option.some.injEq, forall_eq', Bool.true_eq_false, iff_false]
      intro e
      have := congrArg List.length e
      have := (List.dropWhile_suffix isBlank (l := cs)).length_le
      simp only [List.length_cons] at *
      omega
    · simp [trimLeft, h]

theorem trimRight_trimRight (cs : List Char) : trimRight (trimRight cs) = trimRight cs := by
  induction cs with
  | nil => rfl
  | cons c cs ih =>
    rw [trimRight]
    split
    · by_cases h : isBlank c <;> simp [h, trimRight]
    · next d ds h =>
      rw [h] at ih
      rw [trimRight, ih]

end Stencil.Text
