import Logbook.Text.Units

/-!
# A hash of texts

The 32-bit FNV-1a hash over sixteen-bit units. The product of a round is a sum of shifted words and
is narrowed to a word only when the next round starts, so that the last sum keeps its high bits.

* `hashRound`: one round;
* `fnv1a`: the magnitude of the last sum.
-/

namespace Logbook.Text

/-- The value ahead of the first round. -/
def hashBasis : Int := 0x811C9DC5

/-- The bits of the multiplier `2 ^ 24 + 2 ^ 8 + 0x93`. -/
def hashShifts : List Int32 := [0, 1, 4, 7, 8, 24]

/-- One round: the unit goes into the low word of the sum, which is then multiplied word by word. -/
def hashRound (sum : Int) (unit : UInt16) : Int :=
  let word := Int32.ofInt sum ^^^ Int32.ofNat unit.toNat
  hashShifts.foldr (fun s rest => (word <<< s).toInt + rest) 0

/-- The sum after all units of a text. -/
def hashSum (cs : List Char) : Int := (units cs).foldl hashRound hashBasis

/-- **The hash of a text.** -/
def fnv1a (cs : List Char) : Nat := (hashSum cs).natAbs

end Logbook.Text
