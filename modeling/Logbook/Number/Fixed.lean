import Logbook.Number.Binary64
import Logbook.Text.Digit

/-!
# A fixed number of places

* `fixed`: a finite double with so many decimal places, rounded from its exact value, a tie going
  to the even digit; the sign is that of the double, also when nothing but zeros is left.
-/

namespace Logbook

/-- The digits of `n` with a point in front of the last `places` of them. -/
def withPoint (places n : Nat) : List Char :=
  let ds := Text.padded (places + 1) n
  if places = 0 then ds else ds.take (ds.length - places) ++ '.' :: ds.drop (ds.length - places)

/-- A finite double with `places` decimal places. -/
def fixed (places : Nat) (x : Float) : List Char :=
  let p := Binary64.parts x
  let (n, d) := Binary64.scale (p.mantissa * Nat.pow 10 places) 1 (-p.exponent)
  (if p.negative then ['-'] else []) ++ withPoint places (Binary64.roundDiv n d)

end Logbook
