import Logbook.Number.Binary64
import Logbook.Text.Digit

/-!
# Decimal literals

A decimal literal has an optional sign, digits with an optional fraction, or a fraction alone, and
an optional exponent with an optional sign. It stands for the double nearest to the number it
writes.

* `Literal`: the parts of a literal, `Literal.value` its double;
* `Literal.read?`: the literal that a text is;
* `nearestDecimal`: the double nearest to an integer times a power of ten.
-/

namespace Logbook

/-- The double nearest to `± n · 10 ^ e`. Beyond the range of doubles no power is computed. -/
def nearestDecimal (negative : Bool) (n : Nat) (e : Int) : Float :=
  let size : Int := (Text.decimal n).length + e
  if n = 0 || size < -330 then Binary64.ofMagnitude negative 0
  else if 310 < size then Binary64.ofMagnitude negative Binary64.infinityBits
  else if 0 ≤ e then Binary64.ofRatio negative (n * Nat.pow 10 e.toNat) 1
  else Binary64.ofRatio negative n (Nat.pow 10 (-e).toNat)

/-- The exponent of a literal: its sign and its digits. -/
structure Literal.Exponent where
  negative : Bool
  digits : List Char
  deriving DecidableEq, Repr

/-- The parts of a decimal literal; digits are ASCII digits. -/
structure Literal where
  negative : Bool
  whole : List Char
  fraction : List Char
  exponent : Option Literal.Exponent
  deriving DecidableEq, Repr

namespace Literal

/-- The value of an exponent. -/
def Exponent.value (e : Exponent) : Int :=
  if e.negative then -(Text.readNat e.digits : Int) else Text.readNat e.digits

/-- The double nearest to the number that a literal writes. -/
def value (l : Literal) : Float :=
  let e := (l.exponent.map Exponent.value).getD 0
  nearestDecimal l.negative (Text.readNat (l.whole ++ l.fraction)) (e - l.fraction.length)

/-- A sign at the start of a text, and what follows it. -/
def readSign : List Char → Bool × List Char
  | '-' :: cs => (true, cs)
  | '+' :: cs => (false, cs)
  | cs => (false, cs)

/-- The exponent that the end of a literal is; an empty end has none. -/
def readExponent? : List Char → Option (Option Exponent)
  | [] => some none
  | c :: cs =>
    if c = 'e' ∨ c = 'E' then
      let (negative, digits) := readSign cs
      if !digits.isEmpty && digits.all Char.isDigit then some (some ⟨negative, digits⟩) else none
    else none

/-- The literal that a whole text is. -/
def read? (cs : List Char) : Option Literal :=
  let (negative, cs) := readSign cs
  let whole := cs.takeWhile Char.isDigit
  let rest := cs.dropWhile Char.isDigit
  let fraction := match rest with
    | '.' :: rest => rest.takeWhile Char.isDigit
    | _ => []
  let rest := match rest with
    | '.' :: rest => rest.dropWhile Char.isDigit
    | _ => rest
  if whole.isEmpty && fraction.isEmpty then none
  else (readExponent? rest).map fun exponent => ⟨negative, whole, fraction, exponent⟩

/-- The double that a decimal literal stands for. -/
def toFloat? (cs : List Char) : Option Float := (read? cs).map value

end Literal

end Logbook
