import Logbook.Expr.Argument
import Logbook.Number.Fixed

/-!
# Methods of numbers and dates

* `NumberMethod`, `DateMethod`: the methods, by name;
* `NumberMethod.apply`, `DateMethod.value`: what they give.
-/

namespace Logbook.Expr

/-- The methods of numbers. -/
inductive NumberMethod where
  | identity
  | display
  | toFixed
  deriving DecidableEq, Repr

namespace NumberMethod

/-- The method of that name. -/
def ofName? : String → Option NumberMethod
  | "valueOf" => some identity
  | "toString" => some display
  | "toFixed" => some toFixed
  | _ => none

/-- A number with so many places; one that is not finite has none. -/
def fixedText (x digits : Float) : Except RunError (List Char) :=
  if 0 ≤ digits ∧ digits ≤ 100 then
    .ok (if x.isFinite then fixed (absoluteIndex digits 100) x else numberText x)
  else .error (.argument (.fixedDigits digits))

/-- What a method gives. -/
def apply (m : NumberMethod) (x : Float) (args : Arguments) : Except RunError Value :=
  match m with
  | identity => .ok (.num x)
  | display => .ok (.ofChars (numberText x))
  | toFixed => (fixedText x (args.number 0 (Binary64.ofNat 0))).map .ofChars

end NumberMethod

/-- The methods of dates. -/
inductive DateMethod where
  | time
  | text
  | year
  | month
  | day
  | weekday
  | hours
  | minutes
  | seconds
  | milliseconds
  deriving DecidableEq, Repr

namespace DateMethod

/-- The method of that name. -/
def ofName? : String → Option DateMethod
  | "getTime" | "valueOf" => some time
  | "toISOString" | "toJSON" | "toString" => some text
  | "getUTCFullYear" => some year
  | "getUTCMonth" => some month
  | "getUTCDate" => some day
  | "getUTCDay" => some weekday
  | "getUTCHours" => some hours
  | "getUTCMinutes" => some minutes
  | "getUTCSeconds" => some seconds
  | "getUTCMilliseconds" => some milliseconds
  | _ => none

/-- What a method gives; months are counted from 0. -/
def value (m : DateMethod) (t : Instant) : Value :=
  match m with
  | time => .num (Binary64.ofInt t.millis)
  | text => .ofChars t.text
  | year => .num (Binary64.ofInt t.year)
  | month => .ofNat (t.date.month - 1)
  | day => .ofNat t.date.day
  | weekday => .ofNat (Logbook.weekday (t.day + Date.epoch))
  | hours => .ofNat t.hour
  | minutes => .ofNat t.minute
  | seconds => .ofNat t.second
  | milliseconds => .ofNat t.milli

end DateMethod

end Logbook.Expr
