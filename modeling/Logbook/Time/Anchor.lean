import Logbook.Time.Instant

/-!
# Anchoring undated instants

Logs that write no dates are moved onto the calendar of those that do.

* `earliest?`: the earliest of some instants;
* `dateOffset?`: how far undated instants move, by the earliest dated one;
* `Instant.anchor`: an undated instant moved so far, if it stays in the calendar.
-/

namespace Logbook

/-- The earliest of some instants. -/
def earliest? : List Instant → Option Instant
  | [] => none
  | t :: ts =>
    match earliest? ts with
    | some u => some (t.min u)
    | none => some t

/-- The latest of some instants. -/
def latest? : List Instant → Option Instant
  | [] => none
  | t :: ts =>
    match latest? ts with
    | some u => some (t.max u)
    | none => some t

/-- The midnight of the earliest dated instant, in milliseconds. -/
def dateOffset? (times : List Instant) : Option Int :=
  (earliest? (times.filter fun t => !t.isUndated)).map fun t => t.midnight.millis

/-- An undated instant moves by the offset, if it stays in the calendar. -/
def Instant.anchor (offset : Int) (t : Instant) : Instant :=
  if t.isUndated then (t.add? offset).getD t else t

theorem Instant.anchor_of_dated {t : Instant} (h : t.isUndated = false) (offset : Int) :
    t.anchor offset = t := by simp [anchor, h]

end Logbook
