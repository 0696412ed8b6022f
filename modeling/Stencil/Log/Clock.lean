import Stencil.Number.Binary64
import Stencil.Data.Fault

/-!
# Times of log records

A record is stamped with the number of seconds since the beginning of 1970 as a floating point number.
`Clock.microseconds` rounds it to microseconds: the fraction is multiplied by a million as a floating
point number, and the product goes to the nearest integer, a tie to the even one. `Clock.dateTime` turns
that into a date of the Gregorian calendar, extended to all years, and a time of day in UTC.

The calendar counts days from the first of January of the year 1. `daysBeforeYear` says how many precede
a year, and `yearOfDay` is its inverse: an estimate by the mean length of a year, corrected by one where
it misses.
-/

namespace Stencil

open Number

/-- A date and time of day. -/
structure DateTime where
  year : Int
  month : Nat
  day : Nat
  hour : Nat
  minute : Nat
  second : Nat
  microsecond : Nat
  deriving DecidableEq, Repr

namespace Clock

/-! ### The calendar -/

/-- Whether a year has a leap day. -/
def isLeapYear (y : Int) : Bool := y % 4 == 0 && (y % 100 != 0 || y % 400 == 0)

/-- The number of days between the beginning of the year 1 and that of the year `y`. -/
def daysBeforeYear (y : Int) : Int :=
  365 * (y - 1) + (y - 1) / 4 - (y - 1) / 100 + (y - 1) / 400

/-- The year of the day with the given number, which is zero for the first day of the year 1. -/
def yearOfDay (day : Int) : Int :=
  let y := day * 400 / 146097 + 1
  if day < daysBeforeYear y then y - 1
  else if daysBeforeYear (y + 1) ≤ day then y + 1
  else y

/-- The lengths of the months. -/
def monthLengths (leap : Bool) : List Nat :=
  [31, if leap then 29 else 28, 31, 30, 31, 30, 31, 31, 30, 31, 30, 31]

/-- The month and the day of the month, both counted from zero, of a day of the year. -/
def monthOfDay : (lengths : List Nat) → (day : Nat) → Nat × Nat
  | [], d => (0, d)
  | l :: ls, d =>
    if d < l then (0, d)
    else
      let (m, d) := monthOfDay ls (d - l)
      (m + 1, d)

/-- The number of the first day of 1970. -/
def epochDay : Int := 719162

/-- The microseconds in a second. -/
def million : Nat := 1000000

/-- The date and time of day at a number of microseconds since the beginning of 1970. -/
def dateTimeAt (microseconds : Int) : DateTime :=
  let seconds := microseconds / million
  let day := seconds / 86400 + epochDay
  let time := (seconds % 86400).toNat
  let year := yearOfDay day
  let (month, dayOfMonth) := monthOfDay (monthLengths (isLeapYear year)) (day - daysBeforeYear year).toNat
  { year := year
    month := month + 1
    day := dayOfMonth + 1
    hour := time / 3600
    minute := time / 60 % 60
    second := time % 60
    microsecond := (microseconds % million).toNat }

/-! ### From floating point numbers -/

/-- A positive floating point number of seconds as whole seconds and microseconds, of which there may be
a million. -/
def split (significand : Nat) (exponent : Int) : Nat × Nat :=
  let q := Binary64.magnitude significand exponent
  let fraction := (q.1 % q.2 * million, q.2)
  let product := match Binary64.ofQuotient false fraction with
    | .finite _ m e => roundEven (Binary64.magnitude m e)
    | _ => 0
  (q.1 / q.2, product)

/-- The number of seconds that is too great for the clock. -/
def secondsLimit : Nat := Nat.pow 2 63

/-- The number of years from 1900 that is too great for the calendar. -/
def yearLimit : Int := Nat.pow 2 31

/-- A floating point number of seconds in microseconds. -/
def microseconds : Binary64 → Except Fault Int
  | .nan => .error .timeUndefined
  | .infinity _ => .error .timeOverflow
  | .finite negative significand exponent =>
    let (seconds, fraction) := split significand exponent
    let sign : Int := if negative then -1 else 1
    if seconds < secondsLimit then .ok (sign * (seconds * million + fraction)) else .error .timeOverflow

/-- The date and time of day at a number of seconds since the beginning of 1970. The year has to be one
of the years 1 to 9999. -/
def dateTime (created : Binary64) : Except Fault DateTime := do
  let t := dateTimeAt (← microseconds created)
  if t.year - 1900 < -yearLimit || yearLimit ≤ t.year - 1900 then throw .calendarOverflow
  else if t.year < 1 || 9999 < t.year then throw (.yearOutOfRange t.year)
  else return t

/-! ### Text -/

/-- A number with zeros in front up to a width. -/
def padded (width n : Nat) : String :=
  let digits := Nat.repr n
  String.ofList (List.replicate (width - digits.length) '0') ++ digits

/-- The time of day to the second. -/
def timeText (t : DateTime) : String :=
  padded 2 t.hour ++ ":" ++ padded 2 t.minute ++ ":" ++ padded 2 t.second

/-- Date and time to the nanosecond. -/
def timestamp (t : DateTime) : String :=
  Nat.repr t.year.toNat ++ "-" ++ padded 2 t.month ++ "-" ++ padded 2 t.day ++ "T" ++ timeText t ++ "." ++
    padded 9 (t.microsecond * 1000) ++ "Z"

end Clock

end Stencil
