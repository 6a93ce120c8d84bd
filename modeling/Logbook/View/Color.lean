import Logbook.Text.Hash
import Logbook.Value.Basic

/-!
# Colors

A record is shown on a color that an expression chooses. A text of the form `#rgb` or `#rrggbb` is
itself the color; any other value picks one of twelve pale hues by the hash of its text.

* `Rgb`, `Rgb.text`, `Rgb.read`: colors by their channels;
* `hsl`: a color by hue, saturation and lightness;
* **`colorFor`**: the color of a value.
-/

namespace Logbook

/-- A color by its channels. -/
structure Rgb where
  red : UInt8
  green : UInt8
  blue : UInt8
  deriving DecidableEq, Repr

/-- Two hexadecimal digits for each channel, behind a number sign. -/
def Rgb.text (c : Rgb) : List Char :=
  '#' :: (Text.hexByte c.red.toNat ++ Text.hexByte c.green.toNat ++ Text.hexByte c.blue.toNat)

/-- A number sign and three or six hexadecimal digits. -/
def isColorText (cs : List Char) : Bool :=
  match cs with
  | '#' :: digits => (digits.length == 3 || digits.length == 6) && digits.all Text.isHex
  | _ => false

/-- A channel by its digits. -/
def channel? (digits : List Char) : Option UInt8 := (Text.readHex? 256 digits).map UInt8.ofNat

/-- A channel by a single digit, which stands for two of them. -/
def shortChannel? (digit : Char) : Option UInt8 := (channel? [digit]).map (· * 17)

/-- The channel whose two digits stand at a position in bytes. -/
def channelAt (digits : List Char) (i : Nat) : OptionT (Except Text.BadPosition) UInt8 := do
  let slice ← OptionT.lift (Text.sliceBytes i (i + 2) digits)
  OptionT.mk (.ok (channel? slice))

/-- The color of three digits. -/
def Rgb.ofShort? : List Char → Option Rgb
  | [r, g, b] => do some ⟨← shortChannel? r, ← shortChannel? g, ← shortChannel? b⟩
  | _ => none

/-- The color of six bytes of digits. -/
def Rgb.ofLong (digits : List Char) : OptionT (Except Text.BadPosition) Rgb := do
  return ⟨← channelAt digits 0, ← channelAt digits 2, ← channelAt digits 4⟩

/-- **The color of a text**, if it is one. The digits are cut by their positions in bytes, and a
position may lie within a character. -/
def Rgb.read (cs : List Char) : Except Text.BadPosition (Option Rgb) :=
  match cs with
  | '#' :: digits =>
    if Text.byteSize digits = 3 then .ok (ofShort? digits)
    else if Text.byteSize digits = 6 then (ofLong digits).run
    else .ok none
  | _ => .ok none

/-! ## Hue, saturation and lightness -/

/-- One channel at the place `t` of the color wheel, between the levels `p` and `q`. -/
def wheelChannel (p q t : Float) : Float :=
  let t := if t < 0.0 then t + 1.0 else if t > 1.0 then t - 1.0 else t
  if t < 1.0 / 6.0 then p + (q - p) * 6.0 * t
  else if t < 0.5 then q
  else if t < 2.0 / 3.0 then p + (q - p) * (2.0 / 3.0 - t) * 6.0
  else p

/-- A channel between 0 and 1 as the nearest byte; what lies outside goes to the nearer end, and
NaN to 0. -/
def channelByte (x : Float) : UInt8 :=
  let y := Binary64.floor (x * 255.0 + 0.5)
  if y > 255.0 then 255
  else if y > 0.0 then UInt8.ofNat ((Binary64.integerPart? y).getD 0).toNat
  else 0

/-- The color of a hue, a saturation and a lightness between 0 and 1. -/
def hsl (h s l : Float) : Rgb :=
  if s == 0.0 then ⟨channelByte l, channelByte l, channelByte l⟩
  else
    let q := if l < 0.5 then l * (1.0 + s) else l + s - l * s
    let p := 2.0 * l - q
    ⟨channelByte (wheelChannel p q (h + 1.0 / 3.0)), channelByte (wheelChannel p q h),
      channelByte (wheelChannel p q (h - 1.0 / 3.0))⟩

/-! ## The color of a value -/

/-- The number of hues. -/
def hueCount : Nat := 12

/-- The pale color of a text. -/
def paleColor (cs : List Char) : Rgb :=
  hsl (Binary64.ofNat (Text.fnv1a cs % hueCount) / Binary64.ofNat hueCount) 0.5 0.9

/-- **The color that a value chooses.** -/
def colorFor (v : Value) : String :=
  let pale := String.ofList (paleColor v.displayChars).text
  match v with
  | .str s => if isColorText s.toList then s else pale
  | _ => pale

theorem colorFor_of_isColorText {s : String} (h : isColorText s.toList = true) :
    colorFor (.str s) = s := by simp [colorFor, h]

end Logbook
