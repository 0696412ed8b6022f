import Mathlib.Algebra.Ring.Nat
import Stencil.Log.Timestamp

/-!
# The calendar and the instants

A number of microseconds becomes a date and time of day, and the date and time are counted back to the number of
microseconds (`Stencil.Clock.toMicroseconds_dateTimeAt`). The year is found by an estimate, and the estimate is at most
one off (`Stencil.Clock.yearOfDay_bounds`); month and day are then found by going through the months of the year, of
which only the second differs between years.

Since every part of a date and time is in its range (`Stencil.DateTime.IsProper`), the parts compare one after the other
as the instants do (`Stencil.DateTime.parts_lt_parts_iff`): the years first, the microseconds last.
-/

namespace Stencil

open Clock

namespace Clock

/-! ### Years -/

/-- **A day lies in its year.** -/
theorem yearOfDay_bounds (day : Int) :
    daysBeforeYear (yearOfDay day) ≤ day ∧ day < daysBeforeYear (yearOfDay day + 1) := by
  unfold yearOfDay
  dsimp only
  -- The mean length of a year is 146097 / 400 days, from which no year departs by more than two days.
  split
  · simp only [daysBeforeYear] at *
    omega
  · split
    · simp only [daysBeforeYear] at *
      omega
    · simp only [daysBeforeYear] at *
      omega

theorem sum_monthLengths (leap : Bool) : (monthLengths leap).sum = if leap then 366 else 365 := by
  cases leap <;> rfl

/-- A year has the days of its months. -/
theorem daysBeforeYear_add_one (y : Int) :
    daysBeforeYear (y + 1) = daysBeforeYear y + (monthLengths (isLeapYear y)).sum := by
  rw [sum_monthLengths]
  by_cases h : isLeapYear y = true
  · rw [if_pos h]
    simp only [isLeapYear, Bool.and_eq_true, Bool.or_eq_true, bne_iff_ne, beq_iff_eq] at h
    simp only [daysBeforeYear]
    omega
  · rw [if_neg h]
    simp only [isLeapYear, Bool.and_eq_true, Bool.or_eq_true, bne_iff_ne, beq_iff_eq] at h
    simp only [daysBeforeYear]
    omega

theorem daysBeforeYear_mono {y y' : Int} (h : y ≤ y') : daysBeforeYear y ≤ daysBeforeYear y' := by
  simp only [daysBeforeYear]
  omega

/-! ### Months -/

/-- A day of the year lies in its month, behind the months before. -/
theorem monthOfDay_spec {lengths : List Nat} {day : Nat} (h : day < lengths.sum) :
    (monthOfDay lengths day).1 < lengths.length ∧
      (monthOfDay lengths day).2 < lengths.getD (monthOfDay lengths day).1 0 ∧
        (lengths.take (monthOfDay lengths day).1).sum + (monthOfDay lengths day).2 = day := by
  induction lengths generalizing day with
  | nil => exact absurd h (Nat.not_lt_zero day)
  | cons l ls ih =>
    rw [monthOfDay]
    split
    · next hday => exact ⟨Nat.succ_pos _, hday, Nat.zero_add day⟩
    · next hday =>
      rw [List.sum_cons] at h
      have hlater : day - l < ls.sum := by omega
      obtain ⟨hmonth, hrest, hsum⟩ := ih hlater
      refine ⟨Nat.succ_lt_succ hmonth, hrest, ?_⟩
      dsimp only
      rw [List.take_succ_cons, List.sum_cons]
      omega

/-- The days before a month and those in it are at most the days before a later month. -/
theorem sum_take_add_le : ∀ leap : Bool, ∀ later < 13, ∀ month < later,
    ((monthLengths leap).take month).sum + (monthLengths leap).getD month 0 ≤ ((monthLengths leap).take later).sum := by
  decide

theorem daysBeforeMonth_eq (y : Int) (month : Nat) :
    daysBeforeMonth y month = ((monthLengths (isLeapYear y)).take (month - 1)).sum := by
  rw [daysBeforeMonth, List.sum_eq_foldl]

/-! ### Instants -/

section

variable (u : Int)

/-- The number of the day of an instant. -/
def dayAt : Int := u / million / 86400 + epochDay

/-- The day of the year of an instant, counted from zero. -/
def dayOfYearAt : Nat := (dayAt u - daysBeforeYear (yearOfDay (dayAt u))).toNat

/-- The second of the day of an instant. -/
def secondAt : Nat := (u / million % 86400).toNat

/-- The month and the day of the month of an instant, both counted from zero. -/
def monthAt : Nat × Nat := monthOfDay (monthLengths (isLeapYear (yearOfDay (dayAt u)))) (dayOfYearAt u)

theorem dateTimeAt_eq :
    dateTimeAt u =
      { year := yearOfDay (dayAt u)
        month := (monthAt u).1 + 1
        day := (monthAt u).2 + 1
        hour := secondAt u / 3600
        minute := secondAt u / 60 % 60
        second := secondAt u % 60
        microsecond := (u % million).toNat } := by
  unfold dateTimeAt monthAt dayOfYearAt dayAt secondAt
  rfl

theorem daysBeforeYear_add_dayOfYearAt : daysBeforeYear (yearOfDay (dayAt u)) + dayOfYearAt u = dayAt u := by
  have hbounds := yearOfDay_bounds (dayAt u)
  rw [dayOfYearAt]
  omega

theorem monthAt_spec :
    (monthAt u).1 < 12 ∧ (monthAt u).2 < (monthLengths (isLeapYear (yearOfDay (dayAt u)))).getD (monthAt u).1 0 ∧
      ((monthLengths (isLeapYear (yearOfDay (dayAt u)))).take (monthAt u).1).sum + (monthAt u).2 = dayOfYearAt u := by
  have hyear := daysBeforeYear_add_one (yearOfDay (dayAt u))
  have hbounds := yearOfDay_bounds (dayAt u)
  have hday := daysBeforeYear_add_dayOfYearAt u
  exact monthOfDay_spec (by omega)

theorem secondAt_lt : secondAt u < 86400 := by
  rw [secondAt]
  omega

theorem isProper_dateTimeAt : (dateTimeAt u).IsProper := by
  obtain ⟨hmonth, hday, -⟩ := monthAt_spec u
  have htime := secondAt_lt u
  rw [dateTimeAt_eq]
  constructor <;> dsimp only
  · omega
  · omega
  · omega
  · exact hday
  · omega
  · omega
  · omega
  · rw [million]
    omega

theorem dayNumber_dateTimeAt : (dateTimeAt u).dayNumber = dayAt u := by
  obtain ⟨-, -, hsum⟩ := monthAt_spec u
  have hday := daysBeforeYear_add_dayOfYearAt u
  rw [DateTime.dayNumber, daysBeforeMonth_eq, dateTimeAt_eq]
  dsimp only
  rw [Nat.add_sub_cancel]
  omega

/-- **Counting back the date and time of an instant gives the instant.** -/
theorem toMicroseconds_dateTimeAt : (dateTimeAt u).toMicroseconds = u := by
  have htime := secondAt_lt u
  have hsecond : (secondAt u : Int) = u / million % 86400 := by
    rw [secondAt]
    omega
  rw [DateTime.toMicroseconds, dayNumber_dateTimeAt, dayAt, dateTimeAt_eq]
  simp only [million] at *
  omega

end

end Clock

/-! ### The order of dates -/

namespace DateTime

variable {t t' : DateTime}

/-- A date lies in its year. -/
theorem IsProper.dayNumber_bounds (h : t.IsProper) :
    daysBeforeYear t.year ≤ t.dayNumber ∧ t.dayNumber < daysBeforeYear (t.year + 1) := by
  have hmonth := h.month_le
  have hpos := h.month_pos
  have hyear := sum_take_add_le (isLeapYear t.year) 12 (by decide) (t.month - 1) (by omega)
  have hall : (monthLengths (isLeapYear t.year)).take 12 = monthLengths (isLeapYear t.year) := rfl
  have hday := h.day_le
  have hdayPos := h.day_pos
  rw [hall] at hyear
  rw [daysBeforeYear_add_one, dayNumber, daysBeforeMonth_eq]
  omega

theorem IsProper.day_lt (h : t.IsProper) : t.day < 32 := by
  have hlengths : ∀ leap : Bool, ∀ month < 12, (monthLengths leap).getD month 0 < 32 := by decide
  have hpos := h.month_pos
  have hle := h.month_le
  have hlength := hlengths (isLeapYear t.year) (t.month - 1) (by omega)
  exact Nat.lt_of_le_of_lt h.day_le hlength

/-- In a later year. -/
theorem IsProper.dayNumber_lt_of_year (h : t.IsProper) (h' : t'.IsProper) (hyear : t.year < t'.year) :
    t.dayNumber < t'.dayNumber := by
  have hmono : daysBeforeYear (t.year + 1) ≤ daysBeforeYear t'.year := daysBeforeYear_mono (by omega)
  have hlow := h.dayNumber_bounds
  have hhigh := h'.dayNumber_bounds
  omega

/-- In a later month of the same year. -/
theorem IsProper.dayNumber_lt_of_month (h : t.IsProper) (h' : t'.IsProper) (hyear : t.year = t'.year)
    (hmonth : t.month < t'.month) : t.dayNumber < t'.dayNumber := by
  have hpos := h.month_pos
  have hle := h'.month_le
  have hbefore := sum_take_add_le (isLeapYear t.year) (t'.month - 1) (by omega) (t.month - 1) (by omega)
  have hday := h.day_le
  have hdayPos := h'.day_pos
  rw [dayNumber, dayNumber, daysBeforeMonth_eq, daysBeforeMonth_eq, ← hyear]
  omega

theorem dayNumber_lt_of_day (hyear : t.year = t'.year) (hmonth : t.month = t'.month) (hday : t.day < t'.day) :
    t.dayNumber < t'.dayNumber := by
  rw [dayNumber, dayNumber, ← hyear, ← hmonth]
  omega

/-- **Dates compare by year, then month, then day.** -/
theorem IsProper.dayNumber_lt_iff (h : t.IsProper) (h' : t'.IsProper) :
    t.dayNumber < t'.dayNumber ↔
      t.year < t'.year ∨ t.year = t'.year ∧ (t.month < t'.month ∨ t.month = t'.month ∧ t.day < t'.day) := by
  constructor
  · intro hlt
    -- Otherwise the dates are the same, or the other one is earlier.
    have hyear := h'.dayNumber_lt_of_year h
    have hmonth := h'.dayNumber_lt_of_month h
    have hday : t'.year = t.year → t'.month = t.month → t'.day ≤ t.day → t'.dayNumber ≤ t.dayNumber := by
      intro hyear hmonth hday
      rw [dayNumber, dayNumber, ← hyear, ← hmonth]
      omega
    omega
  · rintro (hyear | ⟨hyear, hmonth | ⟨hmonth, hday⟩⟩)
    · exact h.dayNumber_lt_of_year h' hyear
    · exact h.dayNumber_lt_of_month h' hyear hmonth
    · exact dayNumber_lt_of_day hyear hmonth hday

/-- The parts of a date and time in the order of their weight. -/
def parts (t : DateTime) : List Nat :=
  [t.year.toNat, t.month, t.day, t.hour, t.minute, t.second, t.microsecond]

/-- **The parts compare one after the other as the instants do.** -/
theorem IsProper.parts_lt_parts_iff (h : t.IsProper) (h' : t'.IsProper) (hyear : 0 ≤ t.year) (hyear' : 0 ≤ t'.year) :
    t.parts < t'.parts ↔ t.toMicroseconds < t'.toMicroseconds := by
  have hday := h.dayNumber_lt_iff h'
  have hday' := h'.dayNumber_lt_iff h
  obtain ⟨-, -, -, -, hhour, hminute, hsecond, hmicro⟩ := h
  obtain ⟨-, -, -, -, hhour', hminute', hsecond', hmicro'⟩ := h'
  rw [toMicroseconds, toMicroseconds, parts, parts]
  simp only [List.cons_lt_cons_iff, List.not_lt_nil, and_false, or_false, million] at *
  omega

end DateTime

end Stencil
