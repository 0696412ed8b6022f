import Stencil.Proofs.Calendar
import Stencil.Proofs.Lines

/-!
# Timestamps order as the instants do

A timestamp consists of the parts of a date and time, each with a fixed number of digits
(`Stencil.Number.fixedDigits`), and texts of as many digits compare as the numbers do
(`Stencil.Number.fixedDigits_append_lt_iff`). So timestamps compare as the parts, and those as the instants. Read back,
a timestamp gives the instant (`Stencil.Clock.readTimestamp?_timestamp`), so no two instants have the same.

All this is for years of four digits (`Stencil.DateTime.IsStampable`): years before 1000 have shorter timestamps. The
instants from 1970 on and before the year 10000 are among them, and both layouts show them.
-/

namespace Stencil

open Number

/-! ### Digits -/

namespace Number

/-- The last `width` decimal digits of a number. -/
def fixedDigits : (width n : Nat) → List Char
  | 0, _ => []
  | width + 1, n => fixedDigits width (n / 10) ++ [Nat.digitChar (n % 10)]

theorem fixedDigits_zero (width : Nat) : fixedDigits width 0 = List.replicate width '0' := by
  induction width with
  | zero => rfl
  | succ width ih =>
    rw [fixedDigits, Nat.zero_div, ih, List.replicate_succ']
    rfl

theorem isDigit_of_mem_fixedDigits {width n : Nat} {c : Char} (h : c ∈ fixedDigits width n) : c.isDigit = true := by
  induction width generalizing n with
  | zero => exact nomatch h
  | succ width ih =>
    rcases List.mem_append.mp h with hc | hc
    · exact ih hc
    · rw [List.mem_singleton.mp hc, Nat.isDigit_digitChar, decide_eq_true_iff]
      omega

/-- The digits stand for the number, if it has no more digits than that. -/
theorem ofDigits_fixedDigits {width n : Nat} (h : n < 10 ^ width) :
    ofDigits ((fixedDigits width n).map fun c => c.toNat - 48) = n := by
  induction width generalizing n with
  | zero =>
    obtain rfl : n = 0 := by omega
    rfl
  | succ width ih =>
    have hfront : n / 10 < 10 ^ width := by
      rw [Nat.pow_succ] at h
      omega
    have hlast := Nat.toNat_digitChar_sub_48_of_lt_ten (n := n % 10) (by omega)
    rw [fixedDigits, List.map_append, ofDigits, List.foldl_append]
    change 10 * ofDigits ((fixedDigits width (n / 10)).map fun c => c.toNat - 48) + ((n % 10).digitChar.toNat - 48) = n
    rw [ih hfront, hlast]
    omega

theorem digitChar_lt_iff {a b : Nat} (ha : a < 10) (hb : b < 10) : a.digitChar < b.digitChar ↔ a < b := by
  change a.digitChar.val.toNat < b.digitChar.val.toNat ↔ a < b
  have hcode := Nat.toNat_digitChar_of_lt_ten ha
  have hcode' := Nat.toNat_digitChar_of_lt_ten hb
  rw [Char.toNat] at hcode hcode'
  omega

theorem digitChar_inj {a b : Nat} (ha : a < 10) (hb : b < 10) : a.digitChar = b.digitChar ↔ a = b := by
  constructor
  · intro h
    have hcode := Nat.toNat_digitChar_of_lt_ten ha
    rw [h, Nat.toNat_digitChar_of_lt_ten hb] at hcode
    omega
  · rintro rfl
    rfl

/-- **Texts that begin with as many digits compare by the numbers first.** -/
theorem fixedDigits_append_lt_iff {width a b : Nat} (ha : a < 10 ^ width) (hb : b < 10 ^ width) {cs ds : List Char} :
    fixedDigits width a ++ cs < fixedDigits width b ++ ds ↔ a < b ∨ a = b ∧ cs < ds := by
  induction width generalizing a b cs ds with
  | zero =>
    obtain rfl : a = 0 := by omega
    obtain rfl : b = 0 := by omega
    rw [fixedDigits, List.nil_append, List.nil_append]
    simp
  | succ width ih =>
    rw [Nat.pow_succ] at ha hb
    rw [fixedDigits, fixedDigits, List.append_assoc, List.append_assoc, ih (by omega) (by omega), List.singleton_append,
      List.singleton_append, List.cons_lt_cons_iff, digitChar_lt_iff (by omega) (by omega),
      digitChar_inj (by omega) (by omega)]
    by_cases hcs : cs < ds
    · simp only [hcs, and_true]
      omega
    · simp only [hcs, and_false, or_false]
      omega

/-- The digits of a number with zeros in front up to the width. -/
theorem replicate_append_toDigits {width n : Nat} (hpos : 0 < width) (h : n < 10 ^ width) :
    List.replicate (width - (Nat.toDigits 10 n).length) '0' ++ Nat.toDigits 10 n = fixedDigits width n := by
  induction width generalizing n with
  | zero => exact absurd hpos (Nat.lt_irrefl 0)
  | succ width ih =>
    by_cases hn : n < 10
    · have hfront : n / 10 = 0 := Nat.div_eq_of_lt hn
      rw [Nat.toDigits_of_lt_base hn, fixedDigits, hfront, fixedDigits_zero, Nat.mod_eq_of_lt hn]
      rfl
    · rw [Nat.pow_succ] at h
      have hwidth : 0 < width := by
        refine Nat.pos_of_ne_zero ?_
        rintro rfl
        omega
      rw [Nat.toDigits_of_base_le (by decide) (by omega), List.length_append, List.length_singleton,
        Nat.add_sub_add_right, fixedDigits, ← ih hwidth (by omega), List.append_assoc]

/-- The same with one more character behind the digits, which is the same in both texts. -/
theorem fixedDigits_append_cons_lt_iff {width a b : Nat} (ha : a < 10 ^ width) (hb : b < 10 ^ width) {c : Char}
    {cs ds : List Char} :
    fixedDigits width a ++ c :: cs < fixedDigits width b ++ c :: ds ↔ a < b ∨ a = b ∧ cs < ds := by
  have hc : ¬c < c := Char.lt_irrefl c
  rw [fixedDigits_append_lt_iff ha hb, List.cons_lt_cons_iff]
  simp only [hc, false_or, true_and]

/-- Zeros for the digits behind. -/
theorem fixedDigits_mul_thousand (width n : Nat) :
    fixedDigits (width + 3) (n * 1000) = fixedDigits width n ++ ['0', '0', '0'] := by
  have h : n * 1000 / 10 / 10 / 10 = n := by omega
  have hlast : n * 1000 % 10 = 0 := by omega
  have hsecond : n * 1000 / 10 % 10 = 0 := by omega
  have hfirst : n * 1000 / 10 / 10 % 10 = 0 := by omega
  rw [fixedDigits, fixedDigits, fixedDigits, h, hlast, hsecond, hfirst, List.append_assoc, List.append_assoc]
  rfl

end Number

/-! ### Timestamps -/

namespace Clock

theorem toList_padded (width : Nat) {n : Nat} (hpos : 0 < width) (h : n < 10 ^ width) :
    (padded width n).toList = fixedDigits width n := by
  rw [padded, String.toList_append, String.toList_ofList, ← String.length_toList, Nat.toList_repr,
    replicate_append_toDigits hpos h]

/-- A number of four digits needs no zeros in front. -/
theorem toList_repr_of_four {n : Nat} (hlow : 1000 ≤ n) (hhigh : n < 10000) :
    (Nat.repr n).toList = fixedDigits 4 n := by
  have hlength : (Nat.toDigits 10 n).length = 4 := by
    rw [Nat.toDigits_of_base_le (by decide) (by omega), Nat.toDigits_of_base_le (by decide) (by omega),
      Nat.toDigits_of_base_le (by decide) (by omega), Nat.toDigits_of_lt_base (by omega)]
    rfl
  have hdigits : List.replicate (4 - _) '0' ++ Nat.toDigits 10 n = fixedDigits 4 n :=
    replicate_append_toDigits (by decide) hhigh
  rw [hlength, Nat.sub_self, List.replicate_zero, List.nil_append] at hdigits
  rw [Nat.toList_repr, hdigits]

theorem number?_fixedDigits {width n : Nat} (h : n < 10 ^ width) : number? (fixedDigits width n) = some n := by
  have hdigits : (fixedDigits width n).all Char.isDigit = true :=
    List.all_eq_true.mpr fun _ hc => isDigit_of_mem_fixedDigits hc
  rw [number?, if_pos hdigits, ofDigits_fixedDigits h]

end Clock

/-- **Whether a date and time has a timestamp of the usual length**, in which the year has four digits. -/
structure DateTime.IsStampable (t : DateTime) : Prop extends t.IsProper where
  year_ge : 1000 ≤ t.year
  year_le : t.year ≤ 9999

/-- The parts have no more digits than there are places for them. -/
theorem DateTime.IsStampable.parts_lt {t : DateTime} (h : t.IsStampable) :
    t.year.toNat < 10 ^ 4 ∧ t.month < 10 ^ 2 ∧ t.day < 10 ^ 2 ∧ t.hour < 10 ^ 2 ∧ t.minute < 10 ^ 2 ∧
      t.second < 10 ^ 2 ∧ t.microsecond < 10 ^ 6 := by
  have hday := h.day_lt
  obtain ⟨⟨-, hmonth, -, -, hhour, hminute, hsecond, hmicro⟩, -, hyear⟩ := h
  rw [Clock.million] at hmicro
  omega

namespace Clock

section

variable {t t' : DateTime}

theorem toList_timeText (h : t.IsStampable) :
    (timeText t).toList =
      fixedDigits 2 t.hour ++ ':' :: (fixedDigits 2 t.minute ++ ':' :: fixedDigits 2 t.second) := by
  obtain ⟨-, -, -, hhour, hminute, hsecond, -⟩ := h.parts_lt
  simp only [timeText, String.toList_append, toList_padded 2 (by decide) hhour, toList_padded 2 (by decide) hminute,
    toList_padded 2 (by decide) hsecond, List.append_assoc]
  rfl

/-- What a timestamp is made of. -/
theorem toList_timestamp (h : t.IsStampable) :
    (timestamp t).toList =
      fixedDigits 4 t.year.toNat ++ '-' :: (fixedDigits 2 t.month ++ '-' :: (fixedDigits 2 t.day ++ 'T' ::
        (fixedDigits 2 t.hour ++ ':' :: (fixedDigits 2 t.minute ++ ':' :: (fixedDigits 2 t.second ++ '.' ::
          (fixedDigits 6 t.microsecond ++ ['0', '0', '0', 'Z'])))))) := by
  obtain ⟨hyear, hmonth, hday, -, -, -, hmicro⟩ := h.parts_lt
  have hlow := h.year_ge
  have hnano : t.microsecond * 1000 < 10 ^ 9 := by omega
  rw [timestamp]
  simp only [String.toList_append, toList_timeText h, toList_repr_of_four (by omega) hyear,
    toList_padded 2 (by decide) hmonth, toList_padded 2 (by decide) hday, toList_padded 9 (by decide) hnano,
    fixedDigits_mul_thousand 6, List.append_assoc, List.cons_append, List.nil_append]
  rfl

/-- **Timestamps compare as the parts of their dates and times.** -/
theorem timestamp_lt_timestamp_iff (h : t.IsStampable) (h' : t'.IsStampable) :
    timestamp t < timestamp t' ↔ t.parts < t'.parts := by
  obtain ⟨hyear, hmonth, hday, hhour, hminute, hsecond, hmicro⟩ := h.parts_lt
  obtain ⟨hyear', hmonth', hday', hhour', hminute', hsecond', hmicro'⟩ := h'.parts_lt
  have hend : ¬['0', '0', '0', 'Z'] < ['0', '0', '0', 'Z'] := List.lt_irrefl _
  rw [String.lt_iff, toList_timestamp h, toList_timestamp h', fixedDigits_append_cons_lt_iff hyear hyear',
    fixedDigits_append_cons_lt_iff hmonth hmonth', fixedDigits_append_cons_lt_iff hday hday',
    fixedDigits_append_cons_lt_iff hhour hhour', fixedDigits_append_cons_lt_iff hminute hminute',
    fixedDigits_append_cons_lt_iff hsecond hsecond', fixedDigits_append_lt_iff hmicro hmicro', DateTime.parts,
    DateTime.parts]
  simp only [List.cons_lt_cons_iff, List.not_lt_nil, hend, and_false, or_false]

/-- **A timestamp is read back as the instant that it shows.** -/
theorem readTimestamp?_timestamp (h : t.IsStampable) : readTimestamp? (timestamp t) = some t.toMicroseconds := by
  obtain ⟨hyear, hmonth, hday, hhour, hminute, hsecond, hmicro⟩ := h.parts_lt
  have hlow := h.year_ge
  have hcast : (t.year.toNat : Int) = t.year := by omega
  have hproper : t.IsProper := h.toIsProper
  rw [readTimestamp?, toList_timestamp h]
  -- The digits of each part stand in their places.
  change (do
    let t : DateTime :=
      { year := (← number? (fixedDigits 4 t.year.toNat))
        month := (← number? (fixedDigits 2 t.month))
        day := (← number? (fixedDigits 2 t.day))
        hour := (← number? (fixedDigits 2 t.hour))
        minute := (← number? (fixedDigits 2 t.minute))
        second := (← number? (fixedDigits 2 t.second))
        microsecond := (← number? (fixedDigits 6 t.microsecond)) }
    if t.IsProper then some t.toMicroseconds else none) = _
  rw [number?_fixedDigits hyear, number?_fixedDigits hmonth, number?_fixedDigits hday, number?_fixedDigits hhour,
    number?_fixedDigits hminute, number?_fixedDigits hsecond, number?_fixedDigits hmicro]
  change (if DateTime.IsProper ⟨(t.year.toNat : Int), _, _, _, _, _, _⟩ then some _ else none) = _
  rw [hcast]
  exact if_pos hproper

theorem length_timestamp (h : t.IsStampable) : (timestamp t).length = 30 := by
  rw [← String.length_toList, toList_timestamp h]
  rfl

theorem length_timeText (h : t.IsStampable) : (timeText t).toList.length = 8 := by
  rw [toList_timeText h]
  rfl

/-- The time of day is in the middle of the timestamp. -/
theorem drop_toList_timestamp (h : t.IsStampable) : ((timestamp t).toList.drop 11).take 8 = (timeText t).toList := by
  rw [toList_timestamp h, toList_timeText h]
  rfl

end

/-! ### Instants -/

section

variable {u u' : Int}

/-- The year of an instant from 1970 on and before the year 10000. -/
theorem isStampable_dateTimeAt (hlow : 0 ≤ u) (hhigh : u < DateTime.yearTenThousand.toMicroseconds) :
    (dateTimeAt u).IsStampable := by
  have hbounds := yearOfDay_bounds (dayAt u)
  have hlimit : DateTime.yearTenThousand.toMicroseconds = 253402300800000000 := rfl
  have hday : dayAt u = u / million / 86400 + epochDay := rfl
  have hyear : 1000 ≤ yearOfDay (dayAt u) ∧ yearOfDay (dayAt u) ≤ 9999 := by
    simp only [daysBeforeYear, epochDay, million] at *
    omega
  exact ⟨isProper_dateTimeAt u, hyear.1, hyear.2⟩

/-- **Timestamps compare as the instants.** -/
theorem timestamp_dateTimeAt_lt_iff (h : (dateTimeAt u).IsStampable) (h' : (dateTimeAt u').IsStampable) :
    timestamp (dateTimeAt u) < timestamp (dateTimeAt u') ↔ u < u' := by
  have hyear := h.year_ge
  have hyear' := h'.year_ge
  rw [timestamp_lt_timestamp_iff h h', h.parts_lt_parts_iff h'.toIsProper (by omega) (by omega),
    toMicroseconds_dateTimeAt, toMicroseconds_dateTimeAt]

theorem readTimestamp?_timestamp_dateTimeAt (h : (dateTimeAt u).IsStampable) :
    readTimestamp? (timestamp (dateTimeAt u)) = some u := by
  rw [readTimestamp?_timestamp h, toMicroseconds_dateTimeAt]

theorem timestamp_dateTimeAt_inj (h : (dateTimeAt u).IsStampable) (h' : (dateTimeAt u').IsStampable) :
    timestamp (dateTimeAt u) = timestamp (dateTimeAt u') ↔ u = u' := by
  constructor
  · intro hsame
    have hread := readTimestamp?_timestamp_dateTimeAt h
    rw [hsame, readTimestamp?_timestamp_dateTimeAt h'] at hread
    exact (Option.some.inj hread).symm
  · rintro rfl
    rfl

/-- No instant from 1970 on and before the year 10000 is refused. -/
theorem dateTime_of_isStampable {created : Binary64} (hcreated : microseconds created = .ok u)
    (h : (dateTimeAt u).IsStampable) : dateTime created = .ok (dateTimeAt u) := by
  have hlow := h.year_ge
  have hhigh := h.year_le
  have hlimit : yearLimit = 2147483648 := rfl
  have hcalendar : ¬((dateTimeAt u).year - 1900 < -yearLimit ∨ yearLimit ≤ (dateTimeAt u).year - 1900) := by omega
  have hyears : ¬((dateTimeAt u).year < 1 ∨ 9999 < (dateTimeAt u).year) := by omega
  rw [dateTime, hcreated]
  simp only [bind, Except.bind, Bool.or_eq_true, decide_eq_true_iff, hcalendar, hyears, if_false]
  rfl

end

end Clock

/-! ### The times of lines -/

open Clock

/-- **Whether the lines of a record show when it was made by a timestamp**: its time has a date, of which it is the
timestamp, lines for programs have it as a field, and lines for people begin with the time of day that stands in its
middle. -/
structure Record.IsStamped (r : Record) (stamp : String) : Prop where
  dated : ∃ time, Clock.dateTime r.created = .ok time ∧ timestamp time = stamp
  json {g : Graph} {version text : String} {σ τ : RunState}
    (h : (JsonLayout.line g version r).runFrom σ = (.ok text, τ)) :
    ∃ doc : JsonTree, text = doc.text ∧ doc.field? "timestamp" = some (.string stamp)
  human {g : Graph} {colours : Bool} {line : String} {σ τ : RunState}
    (h : (HumanLayout.line g colours r).runFrom σ = (.ok line, τ)) :
    line.toList.take 8 = (stamp.toList.drop 11).take 8

/-- The line for people begins with the time of day. -/
theorem HumanLayout.exists_line_eq {g : Graph} {r : Record} {colours : Bool} {line : String} {σ τ : RunState}
    (h : (HumanLayout.line g colours r).runFrom σ = (.ok line, τ)) :
    ∃ time, Clock.dateTime r.created = .ok time ∧ ∃ rest, line = timeText time ++ rest := by
  rw [runFrom_line] at h
  rcases hpieces : (pieces g r).runFrom σ with ⟨f | ps, ρ⟩
  · rw [hpieces] at h
    exact nomatch h
  · rw [hpieces] at h
    have hjoin : LinePiece.join g colours ps = .ok line := congrArg Prod.fst h
    obtain ⟨time, htime, _, -, _, -, _, -, _, -, _, -, rfl⟩ := runFrom_pieces_eq_ok_iff.mp hpieces
    refine ⟨time, htime, ?_⟩
    -- The first piece has no style.
    have hfirst : LinePiece.parts colours (.ofText none (timeText time)) = [.text (timeText time)] := by
      cases colours <;> rfl
    rw [LinePiece.join, List.cons_append, List.cons_append, List.flatMap_cons, hfirst, List.singleton_append,
      LinePiece.joinParts] at hjoin
    generalize LinePiece.joinParts g _ _ = joined at hjoin
    rcases joined with f | rest
    · exact nomatch hjoin
    · exact ⟨rest, (Except.ok.inj hjoin).symm⟩

theorem Record.isStamped_timestamp {r : Record} {t : DateTime} (htime : Clock.dateTime r.created = .ok t)
    (h : t.IsStampable) : r.IsStamped (timestamp t) := by
  constructor
  · exact ⟨t, htime, rfl⟩
  · intro g version text σ τ hline
    obtain ⟨doc, hdoc, rfl⟩ := JsonLayout.runFrom_line_eq_ok_iff.mp hline
    obtain ⟨time, hown, -, -, -, -, -, -, -, -, rfl⟩ := JsonLayout.runFrom_document_eq_ok_iff.mp hdoc
    obtain rfl : t = time := Except.ok.inj (htime.symm.trans hown)
    exact ⟨_, rfl, rfl⟩
  · intro g colours line σ τ hline
    obtain ⟨time, hown, rest, rfl⟩ := HumanLayout.exists_line_eq hline
    obtain rfl : t = time := Except.ok.inj (htime.symm.trans hown)
    rw [drop_toList_timestamp h, String.toList_append, ← length_timeText h, List.take_left]

/-- **Timestamps order as the instants do**, to the microsecond to which these are rounded. The rounding takes two
steps: the fraction of a second, times a million, is rounded to a floating point number, and that to an integer, a tie
to the even one. So the microseconds are not always the nearest ones: a record of 2.5 microseconds has two of them,
although the floating point number that is written so is a little greater. -/
theorem Record.timestamps_ordered {r r' : Record} {u u' : Int} (hu : microseconds r.created = .ok u) (hlow : 0 ≤ u)
    (hhigh : u < DateTime.yearTenThousand.toMicroseconds) (hu' : microseconds r'.created = .ok u') (hlow' : 0 ≤ u')
    (hhigh' : u' < DateTime.yearTenThousand.toMicroseconds) :
    ∃ s s', r.IsStamped s ∧ r'.IsStamped s' ∧ s.length = 30 ∧ s'.length = 30 ∧
      (s < s' ↔ u < u') ∧ (s = s' ↔ u = u') ∧ (s' < s ↔ u' < u) ∧
        readTimestamp? s = some u ∧ readTimestamp? s' = some u' := by
  have h := isStampable_dateTimeAt hlow hhigh
  have h' := isStampable_dateTimeAt hlow' hhigh'
  exact ⟨timestamp (dateTimeAt u), timestamp (dateTimeAt u'), isStamped_timestamp (dateTime_of_isStampable hu h) h,
    isStamped_timestamp (dateTime_of_isStampable hu' h') h', length_timestamp h, length_timestamp h',
    timestamp_dateTimeAt_lt_iff h h', timestamp_dateTimeAt_inj h h', timestamp_dateTimeAt_lt_iff h' h,
    readTimestamp?_timestamp_dateTimeAt h, readTimestamp?_timestamp_dateTimeAt h'⟩

/-- A record that was made at some time. -/
def Record.madeAt (created : Binary64) : Record :=
  { logger := "whisker", level := 20, path := "", line := .int 1, message := .text "", arguments := .positional []
    created := created, attributes := [] }

/-- A record from half a second after 12:34:56 on the last of February 2000, and one from 2017. -/
theorem Record.timestamps_ordered_leap_day :
    let r := Record.madeAt (.finite false 7984509429481472 (-23))
    let r' := Record.madeAt (.finite false 6291456002097152 (-22))
    microseconds r.created = .ok 951827696500000 ∧ microseconds r'.created = .ok 1500000000500000 ∧
      ∃ s s', r.IsStamped s ∧ r'.IsStamped s' ∧ s.length = 30 ∧ s'.length = 30 ∧ s < s' ∧
        readTimestamp? s = some 951827696500000 ∧ readTimestamp? s' = some 1500000000500000 := by
  intro r r'
  have hu : microseconds r.created = .ok 951827696500000 := rfl
  have hu' : microseconds r'.created = .ok 1500000000500000 := rfl
  obtain ⟨s, s', hs, hs', hlength, hlength', hlt, -, -, hread, hread'⟩ :=
    timestamps_ordered hu (by decide) (by decide) hu' (by decide) (by decide)
  exact ⟨hu, hu', s, s', hs, hs', hlength, hlength', hlt.mpr (by decide), hread, hread'⟩

/-- The number that is written 2.5e-06, times a million, becomes 2.5, and that is rounded down. -/
example : microseconds (.finite false 5902958103587057 (-71)) = .ok 2 := rfl

end Stencil
