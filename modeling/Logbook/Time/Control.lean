import Logbook.Time.Stamp

/-!
# Time controls

The start and the end of a selection are typed as text, relative to the *reference date* of the
records: the day of the first dated one.

* `2021-11-12 06:53:11.230`: date and time;
* `06:53:11.230`: a time on the reference date; `06:53:11 (+1day)`: some days after or before it;
* `+5s`, `-10 minutes`, `+2 h`: relative to the other end.

The main definitions are `Control.parse`, `Control.format` and `Control.bounds`, the two ends
together; `TimeError` has the ways in which a control fails.
-/

namespace Logbook

/-- Why a time control has no instant. -/
inductive TimeError where
  /-- It starts like a date and is not one with a time. -/
  | expectedDateTime
  /-- It starts with a digit and is not a time. -/
  | expectedClock
  /-- What follows a time is not a number of days. -/
  | expectedDayOffset
  /-- There is no reference date. -/
  | noReferenceDate
  /-- There is no other end for a relative control. -/
  | needStart
  /-- It starts with a sign and is not a number of units. -/
  | expectedRelative
  /-- It has none of the forms. -/
  | unrecognized
  /-- Its numbers are too large, or there is no such date or time. -/
  | invalidDateTime
  deriving DecidableEq, Repr

/-- The text shown for an error. -/
def TimeError.message : TimeError → String
  | .expectedDateTime => "expected yyyy-mm-dd hh:mm:ss"
  | .expectedClock => "expected hh:mm:ss"
  | .expectedDayOffset => "expected hh:mm:ss (+Ndays)"
  | .noReferenceDate => "no log messages have any times in them"
  | .needStart => "need start for +N relative times"
  | .expectedRelative => "expected +N h|m|s"
  | .unrecognized => "expected hh:mm:ss or +N h|m|s"
  | .invalidDateTime => "invalid date or time"

/-- The midnight of the first dated instant, or of the first instant where none is dated. -/
def referenceDate (times : List Instant) : Option Instant :=
  ((times.find? fun t => !t.isUndated).or times.head?).map Instant.midnight

namespace Control

open Stamp (digits? digitRun? char? number?)

/-- The outcome of a control: no bound for an empty text, else an instant or an error. -/
abbrev Outcome := Except TimeError (Option Instant)

/-- A result with an error for its absence. -/
def orError {α : Type} (e : TimeError) : Option α → Except TimeError α
  | some a => .ok a
  | none => .error e

/-- Three digits, or some digits and a slash, at the start of a text. -/
def startsWithDate (cs : List Char) : Bool :=
  (digits? 3 cs).isSome
    || match digitRun? cs with
      | some (_, '/' :: _) => true
      | _ => false

/-- A point and three digits, where a text starts with them. -/
def optionalMillis (cs : List Char) : Option (List Char) × List Char :=
  match cs with
  | '.' :: rest =>
    match digits? 3 rest with
    | some (ms, rest) => (some ms, rest)
    | none => (none, cs)
  | _ => (none, cs)

/-- A date and a time that are a whole text. -/
def dateTime? (cs : List Char) : Option Stamp := do
  let (y, cs) ← digitRun? cs
  let cs ← char? '-' cs
  let (m, cs) ← digitRun? cs
  let cs ← char? '-' cs
  let (d, cs) ← digitRun? cs
  let cs ← char? ' ' cs
  let (s, cs) ← Stamp.looseTime? cs
  let (ms, cs) := optionalMillis cs
  if cs.isEmpty then
    some { s with year := some y, month := some m, day := some d, milli := ms }
  else none

/-- A time at the start of a text, and what follows on the same line. -/
def clock? (cs : List Char) : Option (Stamp × List Char) := do
  let (s, cs) ← Stamp.looseTime? cs
  let (ms, cs) := optionalMillis cs
  if cs.contains '\n' then none else some ({ s with milli := ms }, cs)

/-- A sign at the start of a text: whether it is a minus. -/
def sign? : List Char → Option (Bool × List Char)
  | '+' :: cs => some (false, cs)
  | '-' :: cs => some (true, cs)
  | _ => none

/-- Without one space at the start. -/
def dropSpace : List Char → List Char
  | ' ' :: cs => cs
  | cs => cs

/-- The words that may follow a number of days. -/
def dayWords : List (List Char) := [[], ['d'], ['d', 'a', 'y'], ['d', 'a', 'y', 's']]

/-- Days in parentheses after one space: whether they go back, and their digits. -/
def dayOffset? (cs : List Char) : Option (Bool × List Char) := do
  let cs ← char? ' ' cs
  let cs ← char? '(' cs
  let (back, cs) := (sign? cs).getD (false, cs)
  let (n, cs) ← digitRun? cs
  let cs := dropSpace cs
  if dayWords.any fun w => cs == w ++ [')'] then some (back, n) else none

/-- A unit of relative time. -/
inductive TimeUnit where
  | second
  | minute
  | hour
  deriving DecidableEq, Repr

/-- The milliseconds of a unit. -/
def TimeUnit.millis : TimeUnit → Int
  | .second => 1000
  | .minute => 60000
  | .hour => 3600000

/-- The spellings of the units. -/
def unitWords : List (String × TimeUnit) :=
  [("s", .second), ("sec", .second), ("secs", .second), ("second", .second), ("seconds", .second),
   ("m", .minute), ("min", .minute), ("mins", .minute), ("minute", .minute), ("minutes", .minute),
   ("h", .hour), ("hour", .hour), ("hours", .hour)]

/-- A signed number of units that is a whole text: whether it goes back, its digits, its unit. -/
def relative? (cs : List Char) : Option (Bool × List Char × TimeUnit) := do
  let (back, cs) ← sign? cs
  let (n, cs) ← digitRun? cs
  let cs := dropSpace cs
  let unit ← unitWords.find? fun w => cs == w.1.toList
  some (back, n, unit.2)

/-- So many times a unit further on, or back. -/
def shift (t : Instant) (back : Bool) (digits : List Char) (unit : Int) : Outcome := do
  let n ← orError .invalidDateTime (number? digits)
  let step : Int := if back then -(n * unit) else n * unit
  let moved ← orError .invalidDateTime (t.add? step)
  return some moved

/-- The instant of a clock reading on the date of another instant. -/
def onDate? (s : Stamp) (reference : Instant) : Option Instant := do
  let hh ← number? s.hour
  let mm ← number? s.minute
  let ss ← number? s.second
  let ms ← Stamp.numberOr? 0 s.milli
  Instant.ofFields? reference.date hh mm ss ms

/-- A control that starts like a date. -/
def parseDated (cs : List Char) : Outcome := do
  let s ← orError .expectedDateTime (dateTime? cs)
  let t ← orError .invalidDateTime s.instant?
  return some t

/-- A control that starts with a digit: a time, and perhaps a number of days. -/
def parseClock (cs : List Char) (reference : Option Instant) : Outcome := do
  let (s, rest) ← orError .expectedClock (clock? cs)
  let date ← orError .noReferenceDate reference
  let t ← orError .invalidDateTime (onDate? s date)
  if rest.isEmpty then return some t
  let (back, n) ← orError .expectedDayOffset (dayOffset? rest)
  shift t back n dayMillis

/-- A control that starts with a sign. -/
def parseRelative (cs : List Char) (other : Option Instant) : Outcome := do
  let base ← orError .needStart other
  let (back, n, unit) ← orError .expectedRelative (relative? cs)
  shift base back n unit.millis

/-- **Reads a control**, given the reference date and the other end. -/
def parse (text : String) (reference other : Option Instant) : Outcome :=
  match text.toList with
  | [] => .ok none
  | c :: cs =>
    if startsWithDate (c :: cs) then parseDated (c :: cs)
    else if c.isDigit then parseClock (c :: cs) reference
    else if c = '+' ∨ c = '-' then parseRelative (c :: cs) other
    else .error .unrecognized

/-- **Writes an instant as a control.** -/
def format (t : Instant) (reference : Option Instant) : String :=
  let clock := t.compact ++ if t.milli = 0 then [] else '.' :: Text.padded 3 t.milli
  match reference with
  | none => String.ofList clock
  | some r =>
    let days := t.day - r.day
    if days = 0 then String.ofList clock
    else
      let sign := if 0 < days then '+' else '-'
      let unit := if days.natAbs = 1 then "day" else "days"
      String.ofList
        (clock ++ ' ' :: '(' :: sign :: (Text.decimal days.natAbs ++ unit.toList ++ [')']))

/-- The instant of an outcome, if it has one. -/
def bound : Outcome → Option Instant
  | .ok t => t
  | .error _ => none

/-- **Reads both ends.** A start that begins with a minus is relative to the end, which is then
read first; otherwise the end may be relative to the start. -/
def bounds (start finish : String) (reference : Option Instant) : Outcome × Outcome :=
  if start.toList.head? = some '-' then
    let e := parse finish reference none
    (parse start reference (bound e), e)
  else
    let s := parse start reference none
    (s, parse finish reference (bound s))

end Control

end Logbook
