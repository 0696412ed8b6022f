import Stencil.Log.Clock

/-!
# Reading timestamps

The timestamps of log lines are read back as a number of microseconds since the beginning of 1970. The
reader knows the calendar only by the number of days that precede a year, a month and a day, and so does
not share with the writer how a day is turned into a date. What shows no date of the calendar is no timestamp.
-/

namespace Stencil

namespace Clock

/-- The number of days of a year that precede a month, counted from one. -/
def daysBeforeMonth (y : Int) (month : Nat) : Nat :=
  ((monthLengths (isLeapYear y)).take (month - 1)).foldl (fun n l => n + l) 0

end Clock

open Clock

/-- The number of days between the beginning of the year 1 and a date. -/
def DateTime.dayNumber (t : DateTime) : Int :=
  daysBeforeYear t.year + daysBeforeMonth t.year t.month + t.day - 1

/-- The number of microseconds between the beginning of 1970 and a date and time. -/
def DateTime.toMicroseconds (t : DateTime) : Int :=
  (((t.dayNumber - epochDay) * 24 + t.hour) * 60 + t.minute) * 60 * million + t.second * million + t.microsecond

/-- The beginning of the year 10000, whose number has one digit more than those before. -/
def DateTime.yearTenThousand : DateTime := ⟨10000, 1, 1, 0, 0, 0, 0⟩

/-- **Whether the parts of a date and time are in their ranges**, which for the day depends on year and month. -/
structure DateTime.IsProper (t : DateTime) : Prop where
  month_pos : 1 ≤ t.month
  month_le : t.month ≤ 12
  day_pos : 1 ≤ t.day
  day_le : t.day ≤ (monthLengths (isLeapYear t.year)).getD (t.month - 1) 0
  hour_lt : t.hour < 24
  minute_lt : t.minute < 60
  second_lt : t.second < 60
  microsecond_lt : t.microsecond < million

namespace DateTime

theorem isProper_iff (t : DateTime) :
    t.IsProper ↔ (1 ≤ t.month ∧ t.month ≤ 12) ∧
      (1 ≤ t.day ∧ t.day ≤ (monthLengths (isLeapYear t.year)).getD (t.month - 1) 0) ∧
        t.hour < 24 ∧ t.minute < 60 ∧ t.second < 60 ∧ t.microsecond < million := by
  constructor
  · intro h
    exact ⟨⟨h.month_pos, h.month_le⟩, ⟨h.day_pos, h.day_le⟩, h.hour_lt, h.minute_lt, h.second_lt, h.microsecond_lt⟩
  · rintro ⟨⟨hmonth, hmonth'⟩, ⟨hday, hday'⟩, hhour, hminute, hsecond, hmicro⟩
    exact ⟨hmonth, hmonth', hday, hday', hhour, hminute, hsecond, hmicro⟩

instance (t : DateTime) : Decidable t.IsProper := decidable_of_iff _ t.isProper_iff.symm

end DateTime

namespace Clock

/-- The number that decimal digits stand for. -/
def number? (cs : List Char) : Option Nat :=
  if cs.all Char.isDigit then some (Number.ofDigits (cs.map fun c => c.toNat - 48)) else none

/-- A timestamp in microseconds. It has to show a date of the calendar, and the nanoseconds have to be whole
microseconds. -/
def readTimestamp? (s : String) : Option Int :=
  match s.toList with
  | [y₁, y₂, y₃, y₄, '-', m₁, m₂, '-', d₁, d₂, 'T', h₁, h₂, ':', i₁, i₂, ':', s₁, s₂, '.',
      f₁, f₂, f₃, f₄, f₅, f₆, '0', '0', '0', 'Z'] => do
    let t : DateTime :=
      { year := (← number? [y₁, y₂, y₃, y₄])
        month := (← number? [m₁, m₂])
        day := (← number? [d₁, d₂])
        hour := (← number? [h₁, h₂])
        minute := (← number? [i₁, i₂])
        second := (← number? [s₁, s₂])
        microsecond := (← number? [f₁, f₂, f₃, f₄, f₅, f₆]) }
    if t.IsProper then some t.toMicroseconds else none
  | _ => none

end Clock

end Stencil
