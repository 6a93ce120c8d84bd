/-!
# Double-precision numbers

A finite double is `± mantissa · 2 ^ exponent` with a mantissa below `2 ^ 53`. The functions here
take a double apart, and build the double nearest to an exact quotient, a tie going to the even
mantissa. Integer parts and remainders are taken on the exact value.

* `parts`, `ofRatio`, `ofInt`: from a double to exact numbers and back;
* `integerPart?`, `isIntegral`: the integer part of a finite double, and whether it is all of it;
* `trunc`, `floor`, `ceil`, `remainder`: doubles from doubles.
-/

namespace Logbook.Binary64

/-- A finite double: the sign, and a mantissa and an exponent of two. -/
structure Parts where
  negative : Bool
  mantissa : Nat
  exponent : Int
  deriving DecidableEq, Repr

/-- The least exponent of a mantissa. -/
def minExponent : Int := -1074

/-- The bit ahead of the fraction of a double, `2 ^ 52`. -/
def hiddenBit : Nat := 0x10000000000000

/-- The mantissa and the exponent of a finite double. -/
def parts (x : Float) : Parts :=
  let bits : Nat := x.toBits.toNat
  let fraction : Nat := bits % hiddenBit
  let biased : Nat := bits / hiddenBit % 0x800
  { negative := 0x8000000000000000 ≤ bits
    mantissa := if biased = 0 then fraction else hiddenBit + fraction
    exponent := if biased = 0 then minExponent else (biased : Int) - 1075 }

/-- The sign bit. -/
def isNegative (x : Float) : Bool := (parts x).negative

/-- The quotient rounded to the nearest integer, a tie going to the even one. -/
def roundDiv (num den : Nat) : Nat :=
  let q := num / den
  let r := num % den
  if 2 * r < den then q else if den < 2 * r then q + 1 else q + q % 2

/-- Numerator and denominator of `num / den / 2 ^ e`. -/
def scale (num den : Nat) (e : Int) : Nat × Nat :=
  if 0 ≤ e then (num, den * Nat.pow 2 e.toNat) else (num * Nat.pow 2 (-e).toNat, den)

/-- The integer `e` with `2 ^ e ≤ num / den < 2 ^ (e + 1)`, for positive numbers. -/
def floorLog2 (num den : Nat) : Int :=
  let e : Int := (Nat.log2 num : Int) - (Nat.log2 den : Int)
  let (n, d) := scale num den e
  if d ≤ n then e else e - 1

/-- The bits of positive infinity. -/
def infinityBits : Nat := 2047 * hiddenBit

/-- The double with these bits below the sign. -/
def ofMagnitude (negative : Bool) (bits : Nat) : Float :=
  Float.ofBits (UInt64.ofNat (min bits infinityBits + if negative then 0x8000000000000000 else 0))

/-- The double nearest to `± num / den`. -/
def ofRatio (negative : Bool) (num den : Nat) : Float :=
  if num = 0 then ofMagnitude negative 0
  else
    let e := max (floorLog2 num den - 52) minExponent
    let (n, d) := scale num den e
    ofMagnitude negative ((e - minExponent).toNat * hiddenBit + roundDiv n d)

/-- The double nearest to an integer. -/
def ofInt (n : Int) : Float := ofRatio (n < 0) n.natAbs 1

/-- The double nearest to a natural number. -/
def ofNat (n : Nat) : Float := ofRatio false n 1

/-- Positive infinity. -/
def infinity : Float := ofMagnitude false infinityBits

/-- Not a number. -/
def nan : Float := Float.ofBits 0x7FF8000000000000

/-- The magnitude of the integer part of a mantissa with its exponent. -/
def Parts.whole (p : Parts) : Nat :=
  if 0 ≤ p.exponent then p.mantissa * Nat.pow 2 p.exponent.toNat
  else p.mantissa / Nat.pow 2 (-p.exponent).toNat

/-- Whether a mantissa with its exponent is an integer. -/
def Parts.isWhole (p : Parts) : Bool :=
  0 ≤ p.exponent || p.mantissa % Nat.pow 2 (-p.exponent).toNat == 0

/-- A finite double that is an integer. -/
def isIntegral (x : Float) : Bool := x.isFinite && (parts x).isWhole

/-- The integer part, toward zero, of a finite double. -/
def integerPart? (x : Float) : Option Int :=
  if x.isFinite then
    let p := parts x
    some (if p.negative then -(p.whole : Int) else p.whole)
  else none

/-- The integer part toward zero, with the sign of `x`. -/
def trunc (x : Float) : Float :=
  if x.isFinite then ofRatio (parts x).negative (parts x).whole 1 else x

/-- The greatest integer not above `x`. -/
def floor (x : Float) : Float :=
  if x.isFinite && !(parts x).isWhole && (parts x).negative then
    ofRatio true ((parts x).whole + 1) 1
  else trunc x

/-- The least integer not below `x`. -/
def ceil (x : Float) : Float :=
  if x.isFinite && !(parts x).isWhole && !(parts x).negative then
    ofRatio false ((parts x).whole + 1) 1
  else trunc x

/-- The remainder of the division of `x` by `y` toward zero, with the sign of `x`. -/
def remainder (x y : Float) : Float :=
  if !x.isFinite || y.isNaN || y == 0 then nan
  else if !y.isFinite then x
  else
    let p := parts x
    let q := parts y
    let e := min p.exponent q.exponent
    let r := (p.mantissa * Nat.pow 2 (p.exponent - e).toNat)
      % (q.mantissa * Nat.pow 2 (q.exponent - e).toNat)
    let (n, d) := scale r 1 (-e)
    ofRatio p.negative n d

end Logbook.Binary64
