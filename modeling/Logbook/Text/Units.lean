/-!
# Bytes and sixteen-bit units

The size of texts in bytes, and texts as sequences of sixteen-bit units, two of them for each
character beyond the first plane.

* `byteSize`: the number of bytes in UTF-8;
* `splitAtByte?`, `sliceBytes`: a text cut at positions in bytes, which may not lie within a
  character;
* `units`: the units of a text;
* `ofUnits`: the text of units, with the replacement character for a half that stands alone.
-/

namespace Logbook.Text

/-- The number of bytes of a text in UTF-8. -/
def byteSize (cs : List Char) : Nat := cs.foldr (fun c n => c.utf8Size + n) 0

/-- A position in bytes that is not between two characters of a text. -/
structure BadPosition where
  position : Nat
  deriving DecidableEq, Repr

/-- The text before a position in bytes and the text from there on. -/
def splitAtByte? : Nat → List Char → Option (List Char × List Char)
  | 0, cs => some ([], cs)
  | _ + 1, [] => none
  | n + 1, c :: cs =>
    if c.utf8Size ≤ n + 1 then
      (splitAtByte? (n + 1 - c.utf8Size) cs).map fun p => (c :: p.1, p.2)
    else none

/-- The text from one position in bytes up to a later one. -/
def sliceBytes (i j : Nat) (cs : List Char) : Except BadPosition (List Char) :=
  match splitAtByte? i cs with
  | none => .error ⟨i⟩
  | some (_, rest) =>
    match splitAtByte? (j - i) rest with
    | none => .error ⟨j⟩
    | some (slice, _) => .ok slice

/-- The units of one character. -/
def unitsOf (c : Char) : List UInt16 :=
  let n := c.toNat
  if n < 0x10000 then [UInt16.ofNat n]
  else
    [UInt16.ofNat (0xD800 + (n - 0x10000) / 0x400), UInt16.ofNat (0xDC00 + (n - 0x10000) % 0x400)]

/-- The units of a text. -/
def units (cs : List Char) : List UInt16 := cs.flatMap unitsOf

/-- The first half of a pair. -/
def isLeading (u : UInt16) : Bool := 0xD800 ≤ u && u < 0xDC00

/-- The second half of a pair. -/
def isTrailing (u : UInt16) : Bool := 0xDC00 ≤ u && u < 0xE000

/-- The text of units; a half without its other half is read as U+FFFD. -/
def ofUnits : List UInt16 → List Char
  | [] => []
  | [u] => if isLeading u || isTrailing u then ['\uFFFD'] else [Char.ofNat u.toNat]
  | u :: v :: rest =>
    if isLeading u && isTrailing v then
      Char.ofNat (0x10000 + (u.toNat - 0xD800) * 0x400 + (v.toNat - 0xDC00)) :: ofUnits rest
    else if isLeading u || isTrailing u then '\uFFFD' :: ofUnits (v :: rest)
    else Char.ofNat u.toNat :: ofUnits (v :: rest)

end Logbook.Text
