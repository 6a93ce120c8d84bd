import Logbook.Json.Basic
import Logbook.Number.Binary64
import Logbook.Text.Digit

/-!
# Numbers in JSON text

An integer that fits in 64 bits, with or without sign, stays an integer. Any other number becomes
a double: the leading digits that fit in 64 bits, scaled by a power of ten in double arithmetic.
A number beyond the doubles is not read.

* `Significand`: leading digits with the power of ten that goes with them;
* `readNumeral?`: the number at the start of a text.
-/

namespace Logbook.Json

/-- Leading digits of a number, and the power of ten by which they count. -/
structure Significand where
  value : Nat
  exponent : Int
  deriving DecidableEq, Repr

namespace Significand

/-- Whether one more digit still fits in 64 bits. -/
def fits (s : Significand) (c : Char) : Bool :=
  s.value * 10 + Text.digitVal c < 0x10000000000000000

/-- Takes the digits of an integer: those that fit are kept and each further one counts as a
factor of ten. -/
def takeWhole (s : Significand) : List Char → Significand
  | [] => s
  | c :: cs =>
    if s.fits c then takeWhole { s with value := s.value * 10 + Text.digitVal c } cs
    else { s with exponent := s.exponent + (cs.length + 1) }

/-- Takes the digits of a fraction: those that fit are kept and the rest is left out. -/
def takeFraction (s : Significand) : List Char → Significand
  | [] => s
  | c :: cs =>
    if s.fits c then
      takeFraction ⟨s.value * 10 + Text.digitVal c, s.exponent - 1⟩ cs
    else s

/-- Scales by a power of ten in double arithmetic, 308 powers at a time. -/
def scale? : Nat → Float → Int → Option Float
  | 0, x, _ => some x
  | fuel + 1, x, e =>
    if e.natAbs ≤ 308 then
      if 0 ≤ e then
        let y := x * Binary64.ofNat (Nat.pow 10 e.natAbs)
        if y.isInf then none else some y
      else some (x / Binary64.ofNat (Nat.pow 10 e.natAbs))
    else if x == 0 then some x
    else if 0 ≤ e then none
    else scale? fuel (x / Binary64.ofNat (Nat.pow 10 308)) (e + 308)

/-- The double of a significand; none beyond the range of doubles. -/
def toFloat? (negative : Bool) (s : Significand) : Option Float :=
  (scale? 4 (Binary64.ofNat s.value) s.exponent).map fun x => if negative then -x else x

end Significand

/-- The double of a significand with a written exponent. An exponent beyond 32 bits leaves zero,
or no double. -/
def withExponent? (negative : Bool) (s : Significand) (down : Bool) (digits : List Char) :
    Option Float :=
  let n := Text.readNat digits
  if 0x80000000 ≤ n then
    if s.value ≠ 0 ∧ !down then none else some (Binary64.ofMagnitude negative 0)
  else
    Significand.toFloat? negative
      { s with exponent := if down then s.exponent - n else s.exponent + n }

/-- An exponent at the start of a text: whether it is negative, its digits, and the rest. -/
def readExponent? (cs : List Char) : Option (Bool × List Char × List Char) :=
  let (down, cs) : Bool × List Char := match cs with
    | '-' :: cs => (true, cs)
    | '+' :: cs => (false, cs)
    | _ => (false, cs)
  let digits := cs.takeWhile Char.isDigit
  if digits.isEmpty then none else some (down, digits, cs.dropWhile Char.isDigit)

/-- The number of an integer without fraction and exponent. -/
def ofWhole? (negative : Bool) (s : Significand) : Option Json :=
  if s.exponent ≠ 0 then (s.toFloat? negative).map .double
  else if !negative then some (.int s.value)
  else if s.value = 0 ∨ 0x8000000000000000 < s.value then (s.toFloat? negative).map .double
  else some (.int (-s.value))

/-- The number that follows the digits of an integer: its fraction and its exponent. -/
def readAfterWhole? (negative : Bool) (s : Significand) (cs : List Char) :
    Option (Json × List Char) :=
  match cs with
  | '.' :: cs =>
    let digits := cs.takeWhile Char.isDigit
    let rest := cs.dropWhile Char.isDigit
    if digits.isEmpty then none
    else
      let s := s.takeFraction digits
      match rest with
      | 'e' :: rest | 'E' :: rest => do
        let (down, ds, rest) ← readExponent? rest
        some (.double (← withExponent? negative s down ds), rest)
      | _ => (s.toFloat? negative).map fun x => (.double x, rest)
  | 'e' :: rest | 'E' :: rest => do
    let (down, ds, rest) ← readExponent? rest
    some (.double (← withExponent? negative s down ds), rest)
  | _ => (ofWhole? negative s).map (·, cs)

/-- The number at the start of a text. No zero stands in front of another digit. -/
def readNumeral? (cs : List Char) : Option (Json × List Char) :=
  let (negative, cs) : Bool × List Char := match cs with
    | '-' :: cs => (true, cs)
    | _ => (false, cs)
  match cs with
  | '0' :: rest =>
    match rest with
    | c :: _ => if c.isDigit then none else readAfterWhole? negative ⟨0, 0⟩ rest
    | [] => readAfterWhole? negative ⟨0, 0⟩ []
  | _ =>
    let digits := cs.takeWhile Char.isDigit
    if digits.isEmpty then none
    else readAfterWhole? negative (Significand.takeWhole ⟨0, 0⟩ digits) (cs.dropWhile Char.isDigit)

end Logbook.Json
