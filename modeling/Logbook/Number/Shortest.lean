import Logbook.Number.Binary64
import Logbook.Text.Digit

/-!
# The shortest decimal of a double

A double stands for every real number that rounds to it. Of the decimals among these, the shortest
is written: the one with the fewest digits, and of several with so many digits the nearest to the
double. How a tie between two of them goes is the writer's choice.

* `Decimal`: digits and a power of ten;
* `shortest`: the shortest decimal of a positive finite double;
* `positional`: digits with a point and no exponent;
* `scientific`: digits with a point after the first one, and an exponent.
-/

namespace Logbook

namespace Decimal

/-- Which of two equally near decimals is taken. -/
inductive Tie where
  /-- The one with an even last digit. -/
  | toEven
  /-- The larger one. -/
  | up
  deriving DecidableEq, Repr

end Decimal

/-- The number `coefficient · 10 ^ exponent`. -/
structure Decimal where
  coefficient : Nat
  exponent : Int
  deriving DecidableEq, Repr

namespace Decimal

/-- The same number without zeros at the end of its digits. -/
def strip : Nat → Nat → Int → Decimal
  | 0, c, e => ⟨c, e⟩
  | fuel + 1, c, e => if c != 0 && c % 10 == 0 then strip fuel (c / 10) (e + 1) else ⟨c, e⟩

/-- The reals that round to a double, in units of a quarter of its last place: both ends and the
double itself, and whether the ends belong to them. -/
structure Interval where
  low : Nat
  value : Nat
  high : Nat
  closed : Bool
  /-- One unit is `unitNum / unitDen`. -/
  unitNum : Nat
  unitDen : Nat

/-- The interval of a positive finite double. -/
def Interval.ofParts (p : Binary64.Parts) : Interval :=
  let m := p.mantissa
  let atPower := m == Binary64.hiddenBit && p.exponent != Binary64.minExponent
  let (n, d) := Binary64.scale 1 1 (2 - p.exponent)
  { low := if atPower then 4 * m - 1 else 4 * m - 2
    value := 4 * m
    high := 4 * m + 2
    closed := m % 2 == 0
    unitNum := n
    unitDen := d }

/-- Numerator and denominator of `num / den / 10 ^ e`. -/
def scale10 (num den : Nat) (e : Int) : Nat × Nat :=
  if 0 ≤ e then (num, den * Nat.pow 10 e.toNat) else (num * Nat.pow 10 (-e).toNat, den)

/-- The number of digits of the integer part of `num / den`, or, below one, a number that is not
positive: the integer `k` with `10 ^ (k - 1) ≤ num / den < 10 ^ k`, looked for from `k` upward. -/
def magnitudeFrom (num den : Nat) : Nat → Int → Int
  | 0, k => k
  | fuel + 1, k =>
    let (n, d) := scale10 num den k
    if n < d then k else magnitudeFrom num den fuel (k + 1)

/-- The integer `k` with `10 ^ (k - 1) ≤ num / den < 10 ^ k`. -/
def magnitude (num den : Nat) : Int :=
  magnitudeFrom num den 4 (Binary64.floorLog2 num den * 30103 / 100000 - 1)

/-- Whether `c` grid steps, of which each is `step.1 / step.2` units, lie in the interval. -/
def Interval.contains (i : Interval) (step : Nat × Nat) (c : Nat) : Bool :=
  let x := c * step.1
  if i.closed then i.low * step.2 ≤ x && x ≤ i.high * step.2
  else i.low * step.2 < x && x < i.high * step.2

/-- The decimal with exponent `e` nearest to the double among those in the interval. -/
def Interval.onGrid (i : Interval) (tie : Tie) (e : Int) : Option Nat :=
  -- one step of the grid in units
  let (n, d) := scale10 i.unitDen i.unitNum (-e)
  let step := (n, d)
  let c := i.value * d / n
  let below := i.contains step c && c != 0
  let above := i.contains step (c + 1)
  if below && above then
    let down := i.value * d - c * n
    let up := (c + 1) * n - i.value * d
    if down < up then some c
    else if up < down then some (c + 1)
    else match tie with
      | .toEven => some (if c % 2 == 0 then c else c + 1)
      | .up => some (c + 1)
  else if below then some c
  else if above then some (c + 1)
  else none

/-- The shortest decimal of a positive finite double: the first grid on which its interval has a
point, from one digit to seventeen, settles the number of digits. -/
def shortest (tie : Tie) (x : Float) : Decimal :=
  let i := Interval.ofParts (Binary64.parts x)
  let k := magnitude (i.value * i.unitNum) i.unitDen
  let found := (List.range' 1 17).findSome? fun n : Nat =>
    (i.onGrid tie (k - n)).map fun c => strip 18 c (k - n)
  found.getD ⟨0, 0⟩

/-! ## Writing digits -/

/-- The digits of a decimal. -/
def digits (d : Decimal) : List Char := Text.decimal d.coefficient

/-- The exponent of the first digit: the number is `d.ddd · 10 ^ e`. -/
def firstExponent (d : Decimal) : Int := d.exponent + (d.digits.length : Int) - 1

/-- The number without an exponent; a fraction only where there is one. -/
def positional (d : Decimal) : List Char :=
  let ds := d.digits
  if 0 ≤ d.exponent then ds ++ List.replicate d.exponent.toNat '0'
  else
    let places := (-d.exponent).toNat
    if places < ds.length then
      ds.take (ds.length - places) ++ '.' :: ds.drop (ds.length - places)
    else '0' :: '.' :: (List.replicate (places - ds.length) '0' ++ ds)

/-- The number with one digit before the point and a signed exponent. -/
def scientific (d : Decimal) : List Char :=
  let e := d.firstExponent
  let mark := if e < 0 then ['e', '-'] else ['e', '+']
  (match d.digits with
    | [] => []
    | [c] => [c]
    | c :: rest => c :: '.' :: rest) ++ mark ++ Text.decimal e.natAbs

end Decimal

end Logbook
