import Logbook.Message.Record

/-!
# Selecting records

* `Window`: the times between two bounds; a bound leaves out the records without a time;
* `keeps`: a test keeps the records that it fails on;
* `timeOrder`: records by time, those without one last;
* `firstError?`: the error of the first record on which something fails;
* **`select`**: the records of a window that a test keeps, by time, and the first error of the test.
-/

namespace Logbook

/-- Bounds on the time of a record. -/
structure Window where
  start : Option Instant := none
  finish : Option Instant := none

/-- Whether a record lies in a window. -/
def Window.admits (w : Window) (r : Record) : Bool :=
  (match w.start, r.time with
    | none, _ => true
    | some s, some t => s ≤ t
    | some _, none => false)
  && (match w.finish, r.time with
    | none, _ => true
    | some e, some t => t ≤ e
    | some _, none => false)

/-- Whether `a` does not come after `b` in time; a record without a time comes last. -/
def timeOrder (a b : Record) : Bool :=
  match a.time, b.time with
  | some s, some t => s ≤ t
  | some _, none => true
  | none, some _ => false
  | none, none => true

/-- Whether `a` was read no later than `b`. -/
def indexOrder (a b : Record) : Bool := a.index ≤ b.index

/-- The error of a result. -/
def errorOf? {ε α : Type} : Except ε α → Option ε
  | .error e => some e
  | .ok _ => none

/-- The error of the first record on which `f` fails. -/
def firstError? {ε α : Type} (f : Record → Except ε α) (rs : List Record) : Option ε :=
  rs.findSome? fun r => errorOf? (f r)

/-- Whether a test keeps a record: it holds, or it fails. -/
def keeps {ε : Type} (test : Record → Except ε Bool) (r : Record) : Bool :=
  match test r with
  | .ok b => b
  | .error _ => true

/-- The records that were selected, and the first error. -/
structure Selection (ε : Type) where
  records : List Record
  firstError : Option ε

/-- **The records of a window that a test keeps**, by time and else as they were read. -/
def select {ε : Type} (rs : List Record) (test : Record → Except ε Bool) (w : Window) :
    Selection ε :=
  let candidates := (rs.mergeSort indexOrder).filter w.admits
  { records := (candidates.filter (keeps test)).mergeSort timeOrder
    firstError := firstError? test candidates }

end Logbook
