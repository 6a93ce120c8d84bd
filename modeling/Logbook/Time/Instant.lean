import Logbook.Time.Calendar
import Logbook.Text.Digit

/-!
# Instants

An instant is a whole number of milliseconds since the start of 1970 and lies in one of the years
from -262143 to 262142. A time of day without a date is anchored to the first of January 1970; an
instant of that year counts as *undated*.

* `Instant`, `Instant.ofMillis?`: instants, and the bounds they keep to;
* `Instant.ofFields?`, `Instant.date`, `Instant.hour` and so on: from a date and a clock and back;
* `Instant.midnight`, `Instant.add?`: the start of the day, and going some milliseconds further;
* `Instant.rollPast`: an undated instant moved by whole days past an earlier one;
* `Instant.text`, `Instant.compact`: date and time, or the time of day alone.
-/

namespace Logbook

/-- The first instant, in milliseconds. -/
def firstMillis : Int := -8334601228800000

/-- The last instant, in milliseconds. -/
def lastMillis : Int := 8210266876799999

/-- Milliseconds since the start of 1970, within the years of the calendar. -/
structure Instant where
  millis : Int
  inCalendar : firstMillis ≤ millis ∧ millis ≤ lastMillis
  deriving DecidableEq

/-- The milliseconds of a day. -/
def dayMillis : Int := 86400000

namespace Instant

instance : LT Instant := ⟨fun a b => a.millis < b.millis⟩
instance : LE Instant := ⟨fun a b => a.millis ≤ b.millis⟩
instance (a b : Instant) : Decidable (a < b) := inferInstanceAs (Decidable (a.millis < b.millis))
instance (a b : Instant) : Decidable (a ≤ b) := inferInstanceAs (Decidable (a.millis ≤ b.millis))

theorem ext_millis {a b : Instant} (h : a.millis = b.millis) : a = b := by
  cases a; cases b; simp_all

/-- The instant so many milliseconds after the start of 1970, if it is in the calendar. -/
def ofMillis? (ms : Int) : Option Instant :=
  if h : firstMillis ≤ ms ∧ ms ≤ lastMillis then some ⟨ms, h⟩ else none

/-- The earlier of two instants. -/
def min (a b : Instant) : Instant := if a ≤ b then a else b

/-- The later of two instants. -/
def max (a b : Instant) : Instant := if a ≤ b then b else a

/-- So many milliseconds further, if that is in the calendar. -/
def add? (t : Instant) (ms : Int) : Option Instant := ofMillis? (t.millis + ms)

/-! ## Date and clock -/

/-- The number of the day, the first of January 1970 being 0. -/
def day (t : Instant) : Int := t.millis / dayMillis

/-- The milliseconds since midnight. -/
def sinceMidnight (t : Instant) : Nat := (t.millis % dayMillis).toNat

/-- The date. -/
def date (t : Instant) : Date := Date.ofNumber (t.day + Date.epoch)

/-- The year. -/
def year (t : Instant) : Int := t.date.year

/-- The hour of the day. -/
def hour (t : Instant) : Nat := t.sinceMidnight / 3600000

/-- The minute of the hour. -/
def minute (t : Instant) : Nat := t.sinceMidnight / 60000 % 60

/-- The second of the minute. -/
def second (t : Instant) : Nat := t.sinceMidnight / 1000 % 60

/-- The millisecond of the second. -/
def milli (t : Instant) : Nat := t.sinceMidnight % 1000

/-- The first year of the calendar. -/
def firstYear : Int := -262143

/-- The last year of the calendar. -/
def lastYear : Int := 262142

/-- The instant of a date and a clock; none for a date or a clock that there is not. -/
def ofFields? (d : Date) (hh mm ss ms : Nat) : Option Instant :=
  if d.Valid ∧ firstYear ≤ d.year ∧ d.year ≤ lastYear ∧ hh < 24 ∧ mm < 60 ∧ ss < 60 ∧ ms < 1000 then
    ofMillis? ((d.number - Date.epoch) * dayMillis
      + ((hh * 3600000 + mm * 60000 + ss * 1000 + ms : Nat) : Int))
  else none

/-- The start of the day. -/
def midnight (t : Instant) : Instant :=
  ⟨t.day * dayMillis, by
    have h := t.inCalendar
    unfold day dayMillis firstMillis lastMillis at *
    omega⟩

/-! ## Undated instants -/

/-- An instant of the year 1970. -/
def isUndated (t : Instant) : Bool := t.year == 1970

/-- An undated instant before `prev` moves on by as many days as take it past `prev`; it stays where
the calendar ends before. -/
def rollPast (t : Instant) (prev : Option Instant) : Instant :=
  match prev with
  | none => t
  | some p =>
    if !t.isUndated || p ≤ t then t
    else
      let days := (p.millis - t.millis + dayMillis - 1) / dayMillis
      (t.add? (days * dayMillis)).getD t

/-! ## Text -/

/-- A year of four digits; another one has a sign and at least four digits. -/
def yearText (y : Int) : List Char :=
  if 0 ≤ y ∧ y ≤ 9999 then Text.padded 4 y.toNat
  else (if y < 0 then '-' else '+') :: Text.padded 4 y.natAbs

/-- Hours, minutes and seconds. -/
def compact (t : Instant) : List Char :=
  Text.padded 2 t.hour ++ ':' :: (Text.padded 2 t.minute ++ ':' :: Text.padded 2 t.second)

/-- Date and time to the millisecond, in universal time. -/
def text (t : Instant) : List Char :=
  yearText t.year ++ '-' :: (Text.padded 2 t.date.month ++ '-' :: (Text.padded 2 t.date.day
    ++ 'T' :: (t.compact ++ '.' :: (Text.padded 3 t.milli ++ ['Z']))))

/-! ## Rolling forward -/

theorem rollPast_none (t : Instant) : t.rollPast none = t := rfl

theorem rollPast_of_dated {t : Instant} (h : t.isUndated = false) (prev : Option Instant) :
    t.rollPast prev = t := by
  cases prev <;> simp [rollPast, h]

theorem rollPast_of_le {t p : Instant} (h : p ≤ t) : t.rollPast (some p) = t := by
  simp [rollPast, h]

end Instant

end Logbook
