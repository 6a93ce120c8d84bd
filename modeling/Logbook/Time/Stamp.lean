import Logbook.Time.Instant

/-!
# Time stamps

Logs write time in several ways. A stamp is looked for anywhere in a text, first one with date and
milliseconds, then less and less specific ones; what a stamp does not say is taken from the start
of 1970. The numbers of a stamp may be in digits of any script, but only ASCII digits have a value.

* `Stamp`: the numbers of a stamp as they are written;
* `fullMillis`, `full`, `slashed`, `halfDay`, `clockMillis`, `clock`: the forms of stamps, each
  read at the start of a text;
* `Stamp.find?`: the first place where the most specific form occurs;
* **`Stamp.instant?`**: the instant that a stamp means;
* `readStamp?`: the instant of the stamp in a text.
-/

namespace Logbook

/-- The two halves of the day on a twelve-hour clock. -/
inductive HalfDay where
  | am
  | pm
  deriving DecidableEq, Repr

/-- The digits of a stamp. -/
structure Stamp where
  year : Option (List Char) := none
  month : Option (List Char) := none
  day : Option (List Char) := none
  hour : List Char
  minute : List Char
  second : List Char
  milli : Option (List Char) := none
  half : Option HalfDay := none
  deriving DecidableEq, Repr

namespace Stamp

/-- Exactly `n` digits at the start of a text. -/
def digits? (n : Nat) (cs : List Char) : Option (List Char × List Char) :=
  let ds := cs.take n
  if ds.length = n ∧ ds.all Text.isDecimal then some (ds, cs.drop n) else none

/-- As many digits as there are at the start of a text, at least one. -/
def digitRun? (cs : List Char) : Option (List Char × List Char) :=
  let ds := cs.takeWhile Text.isDecimal
  if ds.isEmpty then none else some (ds, cs.dropWhile Text.isDecimal)

/-- One given character at the start of a text. -/
def char? (c : Char) : List Char → Option (List Char)
  | d :: rest => if d = c then some rest else none
  | [] => none

/-- A year of four digits, a month and a day of two, with hyphens between them. -/
def date? (cs : List Char) : Option ((List Char × List Char × List Char) × List Char) := do
  let (y, cs) ← digits? 4 cs
  let cs ← char? '-' cs
  let (m, cs) ← digits? 2 cs
  let cs ← char? '-' cs
  let (d, cs) ← digits? 2 cs
  some ((y, m, d), cs)

/-- Hours, minutes and seconds of two digits. -/
def time? (cs : List Char) : Option (Stamp × List Char) := do
  let (hh, cs) ← digits? 2 cs
  let cs ← char? ':' cs
  let (mm, cs) ← digits? 2 cs
  let cs ← char? ':' cs
  let (ss, cs) ← digits? 2 cs
  some ({ hour := hh, minute := mm, second := ss }, cs)

/-- Hours, minutes and seconds of any number of digits. -/
def looseTime? (cs : List Char) : Option (Stamp × List Char) := do
  let (hh, cs) ← digitRun? cs
  let cs ← char? ':' cs
  let (mm, cs) ← digitRun? cs
  let cs ← char? ':' cs
  let (ss, cs) ← digitRun? cs
  some ({ hour := hh, minute := mm, second := ss }, cs)

/-- Milliseconds of three digits after any one character but a line feed. -/
def millis? : List Char → Option (List Char × List Char)
  | [] => none
  | c :: cs => if c = '\n' then none else digits? 3 cs

/-- The half of the day after one space. -/
def half? : List Char → Option HalfDay
  | ' ' :: 'A' :: 'M' :: _ => some .am
  | ' ' :: 'P' :: 'M' :: _ => some .pm
  | _ => none

/-- Date and time: `2021-11-12 06:53:11`, with a space or a `T` between them. -/
def dated? (cs : List Char) : Option (Stamp × List Char) := do
  let ((y, m, d), cs) ← date? cs
  match cs with
  | ' ' :: cs | 'T' :: cs => do
    let (s, cs) ← time? cs
    some ({ s with year := some y, month := some m, day := some d }, cs)
  | _ => none

/-- Date and time with milliseconds: `2021-11-12 06:53:11.230`. -/
def fullMillis (cs : List Char) : Option Stamp := do
  let (s, cs) ← dated? cs
  let (ms, _) ← millis? cs
  some { s with milli := some ms }

/-- Date and time. -/
def full (cs : List Char) : Option Stamp := (dated? cs).map Prod.fst

/-- Month, day and year with slashes, and a time: `10/26/2021, 9:43:06 PM`. -/
def slashed (cs : List Char) : Option Stamp := do
  let (m, cs) ← digitRun? cs
  let cs ← char? '/' cs
  let (d, cs) ← digitRun? cs
  let cs ← char? '/' cs
  let (y, cs) ← digitRun? cs
  let cs ← char? ',' cs
  let cs ← char? ' ' cs
  let (s, cs) ← looseTime? cs
  some { s with year := some y, month := some m, day := some d, half := half? cs }

/-- A time on the twelve-hour clock: `9:43:06 PM`. -/
def halfDay (cs : List Char) : Option Stamp := do
  let (s, cs) ← looseTime? cs
  let h ← half? cs
  some { s with half := some h }

/-- A time with milliseconds: `06:53:11.230`. -/
def clockMillis (cs : List Char) : Option Stamp := do
  let (s, cs) ← time? cs
  let (ms, _) ← millis? cs
  some { s with milli := some ms }

/-- A time: `06:53:11`. -/
def clock (cs : List Char) : Option Stamp := (time? cs).map Prod.fst

/-- The forms of stamps, the most specific first. A form that would be found inside another one
comes after it. -/
def forms : List (List Char → Option Stamp) :=
  [fullMillis, full, slashed, halfDay, clockMillis, clock]

/-- What a form reads at the first place where it reads anything. -/
def findForm? (form : List Char → Option Stamp) : List Char → Option Stamp
  | [] => form []
  | c :: cs => (form (c :: cs)).or (findForm? form cs)

/-- The stamp of a text: the first form that occurs in it, at the first place. -/
def find? (cs : List Char) : Option Stamp := forms.findSome? fun form => findForm? form cs

/-- A number of 32 bits. -/
def number? (ds : List Char) : Option Nat := Text.readBounded? 0x100000000 ds

/-- A number of 32 bits, or a given one where none is written. -/
def numberOr? (default : Nat) : Option (List Char) → Option Nat
  | none => some default
  | some ds => number? ds

/-- The year of a number of 32 bits, of which the highest counts negatively. -/
def yearOfWord (n : Nat) : Int := Int.bmod n 0x100000000

/-- The hour on the twenty-four-hour clock. -/
def hour24 (h : Nat) : Option HalfDay → Nat
  | some .pm => if h < 12 then h + 12 else h
  | some .am => if h = 12 then 0 else h
  | none => h

/-- **The instant of a stamp**; none when a number is too large or the date or the time is none. -/
def instant? (s : Stamp) : Option Instant := do
  let y ← numberOr? 1970 s.year
  let m ← numberOr? 1 s.month
  let d ← numberOr? 1 s.day
  let hh ← number? s.hour
  let mm ← number? s.minute
  let ss ← number? s.second
  let ms ← numberOr? 0 s.milli
  Instant.ofFields? ⟨yearOfWord y, m, d⟩ (hour24 hh s.half) mm ss ms

end Stamp

/-- The instant of the stamp in a text. -/
def readStamp? (cs : List Char) : Option Instant := (Stamp.find? cs).bind Stamp.instant?

end Logbook
