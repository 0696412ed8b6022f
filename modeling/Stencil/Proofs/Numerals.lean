import Mathlib.Algebra.Group.Nat.Defs
import Stencil.Number.Integer

/-!
# Integers are read as they are written

The numeral of an integer is read as that integer (`Stencil.Number.readInteger_toString`), unless it has more digits
than numerals may have. There are other numerals of the same integer: with zeros in front, with a plus sign, with
underscores between digits, with blanks around them, or with the digits of another script.
-/

namespace Stencil.Number

/-! ### Digits -/

theorem digitValue?_of_isDigit {c : Char} (h : c.isDigit = true) : Text.digitValue? c = some (c.toNat - '0'.toNat) := by
  obtain ⟨hlow, hhigh⟩ := Char.isDigit_iff_toNat.mp h
  have hfound : Text.digitZeros.find? (fun z => z ≤ c.toNat && c.toNat ≤ z + 9) = some '0'.toNat := by
    refine List.find?_cons_of_pos ?_
    rw [Bool.and_eq_true, decide_eq_true_iff, decide_eq_true_iff]
    exact ⟨hlow, hhigh⟩
  rw [Text.digitValue?, hfound, Option.map_some]

theorem ne_of_isDigit {c d : Char} (h : c.isDigit = true) (hd : d.isDigit = false) : c ≠ d := by
  rintro rfl
  exact Bool.false_ne_true (hd.symm.trans h)

theorem readDigits_of_isDigit {cs : List Char} (hne : cs ≠ []) (h : ∀ c ∈ cs, c.isDigit = true) :
    readDigits cs = some (cs.map fun c => c.toNat - '0'.toNat) := by
  induction cs with
  | nil => exact absurd rfl hne
  | cons c cs ih =>
    have hc := digitValue?_of_isDigit (h c List.mem_cons_self)
    cases cs with
    | nil => rw [readDigits, hc]; rfl
    | cons d ds =>
      have hrest := ih (List.cons_ne_nil d ds) fun e he => h e (List.mem_cons_of_mem c he)
      have hd : d ≠ '_' := ne_of_isDigit (h d (List.mem_cons_of_mem c List.mem_cons_self)) rfl
      rw [readDigits, hc, hrest]
      · rfl
      · exact nofun
      · exact fun _ hunderscore => hd (List.cons.inj hunderscore).1

theorem ofDigits_map (cs : List Char) : ofDigits (cs.map fun c => c.toNat - '0'.toNat) = Nat.ofDigitChars 10 cs 0 := by
  rw [ofDigits, List.foldl_map]
  rfl

/-- The numeral of a number is read as the number. -/
theorem readNatural_toDigits (n : Nat) : readNatural (Nat.toDigits 10 n) =
    if (Nat.repr n).length ≤ digitLimit then some n else none := by
  have hdigits := readDigits_of_isDigit Nat.toDigits_ne_nil fun c hc =>
    Nat.isDigit_of_mem_toDigits (b := 10) (n := n) (by decide) (by decide) hc
  have hlength : (Nat.toDigits 10 n).length = (Nat.repr n).length := by
    rw [← Nat.toList_repr, String.length_toList]
  rw [readNatural, hdigits]
  change (if _ then _ else _) = _
  rw [List.length_map, hlength, ofDigits_map, Nat.ofDigitChars_ten_toDigits]

/-! ### Signs and blanks -/

/-- Where there are no blanks, none are trimmed. -/
theorem trimNumeral_eq_self {cs : List Char} (h : ∀ c ∈ cs, isNumeralBlank c = false) : trimNumeral cs = cs := by
  have hdrop {ds : List Char} (hds : ∀ d ∈ ds, isNumeralBlank d = false) : ds.dropWhile isNumeralBlank = ds := by
    cases ds with
    | nil => rfl
    | cons d ds => rw [List.dropWhile_cons, hds d List.mem_cons_self, if_neg Bool.false_ne_true]
  rw [trimNumeral, hdrop h, hdrop fun d hd => h d (List.mem_reverse.mp hd), List.reverse_reverse]

theorem isNumeralBlank_of_isDigit {c : Char} (h : c.isDigit = true) : isNumeralBlank c = false := by
  obtain ⟨hlow, hhigh⟩ := Char.isDigit_iff_toNat.mp h
  have hlow' : 48 ≤ c.toNat := hlow
  have hhigh' : c.toNat ≤ 57 := hhigh
  simp only [isNumeralBlank, Text.isBlank, Text.blankIntervals, List.any_cons, List.any_nil, Bool.or_false,
    Bool.and_eq_false_iff, Bool.or_eq_false_iff, decide_eq_false_iff_not]
  omega

section

variable (n : Nat)

theorem isDigit_of_mem_toDigits : ∀ c ∈ Nat.toDigits 10 n, c.isDigit = true :=
  fun _ hc => Nat.isDigit_of_mem_toDigits (by decide) (by decide) hc

theorem readInteger_toDigits : readInteger (Nat.toDigits 10 n) =
    if (Nat.repr n).length ≤ digitLimit then some (n : Int) else none := by
  have hblank : ∀ c ∈ Nat.toDigits 10 n, isNumeralBlank c = false :=
    fun c hc => isNumeralBlank_of_isDigit (isDigit_of_mem_toDigits n c hc)
  -- The first digit is no sign.
  have hsign {c : Char} {cs : List Char} (h : Nat.toDigits 10 n = c :: cs) : c.isDigit = true :=
    isDigit_of_mem_toDigits n c (h ▸ List.mem_cons_self)
  rw [readInteger, trimNumeral_eq_self hblank]
  split
  · next hminus => exact absurd (hsign hminus) (by decide)
  · next hplus => exact absurd (hsign hplus) (by decide)
  · rw [readNatural_toDigits]
    split <;> rfl

theorem readInteger_neg_toDigits : readInteger ('-' :: Nat.toDigits 10 n) =
    if (Nat.repr n).length ≤ digitLimit then some (-(n : Int)) else none := by
  have hblank : ∀ c ∈ '-' :: Nat.toDigits 10 n, isNumeralBlank c = false := by
    intro c hc
    rcases List.mem_cons.mp hc with rfl | hdigit
    · decide
    · exact isNumeralBlank_of_isDigit (isDigit_of_mem_toDigits n c hdigit)
  rw [readInteger, trimNumeral_eq_self hblank]
  split
  · next hminus =>
    rw [← (List.cons.inj hminus).2, readNatural_toDigits]
    split <;> rfl
  · next hplus => exact absurd (List.cons.inj hplus).1 (by decide)
  · next hnone _ => exact absurd rfl (hnone _)

end

/-- **The numeral of an integer is read as the integer**, unless it has too many digits. -/
theorem readInteger_toString (i : Int) : readInteger (toString i).toList =
    if (Nat.repr i.natAbs).length ≤ digitLimit then some i else none := by
  rw [Int.toString_eq_repr, Int.repr_eq_if]
  by_cases hi : 0 ≤ i
  · obtain ⟨n, rfl⟩ := Int.eq_ofNat_of_zero_le hi
    rw [if_pos hi, Int.toNat_natCast, Nat.toList_repr, readInteger_toDigits, Int.natAbs_natCast]
  · obtain ⟨n, hn⟩ := Int.eq_ofNat_of_zero_le (Int.neg_nonneg_of_nonpos (Int.le_of_lt (Int.not_le.mp hi)))
    obtain rfl : i = -n := by omega
    rw [if_neg hi, Int.neg_neg, Int.toNat_natCast, String.toList_append, Nat.toList_repr, Int.natAbs_neg,
      Int.natAbs_natCast]
    exact readInteger_neg_toDigits n

/-- A numeral has only digits, and a sign. -/
theorem notMem_toString {c : Char} (hdigit : c.isDigit = false) (hminus : c ≠ '-') (i : Int) :
    c ∉ (toString i).toList := by
  have hdigits (n : Nat) : c ∉ Nat.toDigits 10 n := fun h => ne_of_isDigit (isDigit_of_mem_toDigits n c h) hdigit rfl
  rw [Int.toString_eq_repr, Int.repr_eq_if]
  split
  · rw [Nat.toList_repr]
    exact hdigits _
  · rw [String.toList_append, Nat.toList_repr]
    exact fun h => (List.mem_append.mp h).elim (fun hsign => hminus (List.mem_singleton.mp hsign)) (hdigits _)

/-- The numeral of an integer that is not far from zero is read. -/
theorem readInteger_toString_of_lt {i : Int} (hi : i.natAbs < Nat.pow 10 19) :
    readInteger (toString i).toList = some i := by
  have hlength : (Nat.repr i.natAbs).length ≤ 19 := (Nat.length_repr_le_iff (by decide)).mpr hi
  rw [readInteger_toString, if_pos (Nat.le_trans hlength (by decide))]

/-- An integer has no numeral if it has too many digits. -/
theorem integerText?_eq_none_iff {n : Int} : integerText? n = none ↔ 10 ^ digitLimit ≤ n.natAbs := by
  have hpositive : 0 < digitLimit := by decide
  have hlength := Nat.length_repr_le_iff (n := n.natAbs) hpositive
  rw [integerText?]
  by_cases hfits : (Nat.repr n.natAbs).length ≤ digitLimit
  · rw [if_pos hfits]
    have hlt := hlength.mp hfits
    exact ⟨nofun, fun hle => absurd hlt (Nat.not_lt.mpr hle)⟩
  · rw [if_neg hfits]
    exact ⟨fun _ => Nat.le_of_not_lt fun hlt => hfits (hlength.mpr hlt), fun _ => rfl⟩

end Stencil.Number
