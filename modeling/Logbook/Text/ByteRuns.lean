/-!
# Runs of characters as bytes

The bytes of the characters in a run, as sequences of ranges of bytes: a character is in the run
exactly if its bytes are in the ranges of one sequence, one after the other.

* `bytesOf`: the bytes of a character;
* `byteRuns`: the sequences of a run, in the order of the characters.
-/

namespace Logbook.Text

/-- The first and the last byte of a range. -/
abbrev ByteRange := Nat × Nat

/-- The bytes of the character with a number. -/
def bytesOf (n : Nat) : List Nat :=
  if n < 0x80 then [n]
  else if n < 0x800 then [0xC0 + n / 0x40, 0x80 + n % 0x40]
  else if n < 0x10000 then [0xE0 + n / 0x1000, 0x80 + n / 0x40 % 0x40, 0x80 + n % 0x40]
  else [0xF0 + n / 0x40000, 0x80 + n / 0x1000 % 0x40, 0x80 + n / 0x40 % 0x40, 0x80 + n % 0x40]

/-- The last character of the first part of a run, if it has to be cut. Bytes behind the first one
take all their values, or else those before them are the same for all characters of the part. -/
def cutOf? (first last : Nat) : Option Nat :=
  match [0x7F, 0x7FF, 0xFFFF].find? fun n => first ≤ n && n < last with
  | some n => some n
  | none =>
    if last < 0x80 then none
    else [0x40, 0x1000, 0x40000].findSome? fun size =>
      if first / size = last / size then none
      else if first % size ≠ 0 then some (first - first % size + (size - 1))
      else if last % size ≠ size - 1 then some (last - last % size - 1)
      else none

/-- The sequences of a run of characters that may be in a text, cut as often as needed. -/
def byteRunsFrom : Nat → Nat → Nat → List (List ByteRange)
  | 0, _, _ => []
  | fuel + 1, first, last =>
    if last < first then []
    else match cutOf? first last with
      | some n => byteRunsFrom fuel first n ++ byteRunsFrom fuel (n + 1) last
      | none => [(bytesOf first).zip (bytesOf last)]

/-- The sequences of a run of characters. No character has a number from 0xD800 to 0xDFFF. A run is
cut at most three times for the number of bytes, and twice for each byte. -/
def byteRuns (first last : Nat) : List (List ByteRange) :=
  if last < 0xD800 ∨ 0xDFFF < first then byteRunsFrom 12 first last
  else byteRunsFrom 12 first 0xD7FF ++ byteRunsFrom 12 0xE000 last

example : byteRuns 0x61 0x7FF = [[(0x61, 0x7F)], [(0xC2, 0xDF), (0x80, 0xBF)]] := by decide

end Logbook.Text
