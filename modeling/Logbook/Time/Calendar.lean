/-!
# The calendar

The Gregorian calendar, carried on without end in both directions. Days are numbered from the first
day of the year 1, which has the number 0; there is a year 0 before it.

* `Date`: a year, a month and a day; `Date.Valid` says which of them there are;
* `Date.number`, `Date.ofNumber`: a date and the number of its day;
* `weekday`: the day of the week, Sunday being 0.
-/

namespace Logbook

/-- A year, a month from 1 and a day from 1. -/
structure Date where
  year : Int
  month : Nat
  day : Nat
  deriving DecidableEq, Repr

namespace Date

/-- Whether a year has a 29th of February. -/
def isLeap (y : Int) : Bool := y % 4 == 0 && (y % 100 != 0 || y % 400 == 0)

/-- The lengths of the months. -/
def monthLengths (leap : Bool) : List Nat :=
  [31, if leap then 29 else 28, 31, 30, 31, 30, 31, 31, 30, 31, 30, 31]

/-- The length of a month; there is none before the first and after the twelfth. -/
def monthLength (leap : Bool) (m : Nat) : Nat :=
  if m = 0 then 0 else (monthLengths leap).getD (m - 1) 0

/-- The days of a year before a month. -/
def daysBeforeMonth (leap : Bool) (m : Nat) : Nat :=
  ((monthLengths leap).take (m - 1)).foldr (· + ·) 0

/-- The days before a year. -/
def daysBeforeYear (y : Int) : Int :=
  let n := y - 1
  365 * n + n / 4 - n / 100 + n / 400

/-- The dates that there are. -/
def Valid (d : Date) : Prop :=
  1 ≤ d.month ∧ d.month ≤ 12 ∧ 1 ≤ d.day ∧ d.day ≤ monthLength (isLeap d.year) d.month

instance (d : Date) : Decidable d.Valid := by unfold Valid; infer_instance

/-- The number of the day. -/
def number (d : Date) : Int :=
  daysBeforeYear d.year + daysBeforeMonth (isLeap d.year) d.month + ((d.day : Int) - 1)

/-- The year of a day and the number of the day in it, from 0. -/
def yearOf (n : Int) : Int × Nat :=
  let r := (n % 146097).toNat
  let centuries := min 3 (r / 36524)
  let r := r - centuries * 36524
  let fours := r / 1461
  let r := r - fours * 1461
  let ones := min 3 (r / 365)
  (400 * (n / 146097) + (100 * centuries + 4 * fours + ones : Nat) + 1, r - ones * 365)

/-- The month of a day of the year and the day in it, going through the lengths of the months. -/
def monthOf : List Nat → Nat → Nat → Nat × Nat
  | [], m, r => (m, r + 1)
  | len :: rest, m, r => if r < len then (m, r + 1) else monthOf rest (m + 1) (r - len)

/-- The date of a day. -/
def ofNumber (n : Int) : Date :=
  let (y, r) := yearOf n
  let (m, d) := monthOf (monthLengths (isLeap y)) 1 r
  ⟨y, m, d⟩

/-- The number of the first of January 1970. -/
def epoch : Int := 719162

end Date

/-- The day of the week of a day, Sunday being 0. -/
def weekday (n : Int) : Nat := ((n + 1) % 7).toNat

end Logbook
