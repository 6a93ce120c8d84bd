import Logbook.Number.Literal
import Logbook.Number.Shortest
import Logbook.Text.Blank

/-!
# Numbers as text

How a text counts as a number, and how a number is shown.

* `numeric`: the number of a text, with blanks around it left out: nothing for zero, the infinities
  by name, hexadecimal digits after `0x`, and decimal literals;
* `numberText`: an integer below `10 ^ 21` in full, any other finite number by its shortest digits,
  never with an exponent;
* `plainText`: the shortest digits alone.
-/

namespace Logbook

/-- The digits after `0x` or `0X`. -/
def hexDigits? : List Char → Option (List Char)
  | '0' :: 'x' :: ds => some ds
  | '0' :: 'X' :: ds => some ds
  | _ => none

/-- The number of a text without blanks around it. -/
def numericTrimmed (cs : List Char) : Float :=
  if cs.isEmpty then Binary64.ofMagnitude false 0
  else if cs = "Infinity".toList ∨ cs = "+Infinity".toList then Binary64.infinity
  else if cs = "-Infinity".toList then Binary64.ofMagnitude true Binary64.infinityBits
  else
    match hexDigits? cs with
    | some ds => ((Text.readHex? 0x10000000000000000 ds).map Binary64.ofNat).getD Binary64.nan
    | none => (Literal.toFloat? cs).getD Binary64.nan

/-- The number that a text counts as; one that is none counts as NaN. -/
def numeric (s : String) : Float := numericTrimmed (Text.trim s.toList)

/-- The shortest digits of a number, without an exponent. -/
def plainText (x : Float) : List Char :=
  if x.isNaN then ['N', 'a', 'N']
  else
    (if Binary64.isNegative x then ['-'] else [])
      ++ if !x.isFinite then ['i', 'n', 'f']
        else if x == 0 then ['0']
        else (Decimal.shortest .up x.abs).positional

/-- How a number is shown. -/
def numberText (x : Float) : List Char :=
  if x.isNaN then "NaN".toList
  else if !x.isFinite then (if Binary64.isNegative x then "-Infinity" else "Infinity").toList
  else if x == 0 then ['0']
  else
    match Binary64.isIntegral x, Binary64.integerPart? x with
    | true, some n => if n.natAbs < Nat.pow 10 21 then Text.signed n else plainText x
    | _, _ => plainText x

end Logbook
