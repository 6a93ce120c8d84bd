import Logbook.Text.CaseMap
import Logbook.Text.WidthTable

/-!
# The width of text

How many columns a text takes up where every character has the same width. Most characters take one
column, wide ones two, and marks that go onto the character before them none. Pictures that are put
together from several characters and letters that are written as one are counted as one.

* `charColumns`: the columns of one character by itself;
* `Start`, `startOf`: what a text starts with, where that changes the width of a character in front;
* `columnsBefore`: the columns that a character adds in front of a text;
* **`columns`**: the columns of a text.
-/

namespace Logbook.Text

/-- The columns of one character by itself. -/
def charColumns (c : Char) : Nat :=
  let n := c.toNat
  if n ≤ 0xA0 then 1
  else if n = 0x17D8 then 3
  else if inRanges hollowRanges n then 0
  else if inRanges wideRanges n then 2
  else 1

/-! ## Signs -/

/-- The character that joins two pictures, or two letters. -/
def joiner : Char := '\u200D'

/-- The character after which a picture is shown. -/
def pictureSelector : Char := '\uFE0F'

/-- The character after which text is shown. -/
def textSelector : Char := '\uFE0E'

/-- The frame of a key around the character before it. -/
def keycap : Char := '\u20E3'

/-- A character that a selector shows as a picture. -/
def isSelectable (c : Char) : Bool := inRanges selectableRanges c.toNat

/-- A picture that a selector shows as narrow text. Enclosed ideographs stay wide. -/
def narrows (c : Char) : Bool :=
  isSelectable c && inRanges pictureRanges c.toNat && !(0x1F200 ≤ c.toNat && c.toNat < 0x1F300)

/-- A color of skin. -/
def isSkinTone (c : Char) : Bool := 0x1F3FB ≤ c.toNat && c.toNat ≤ 0x1F3FF

/-- A letter of which two make a flag. -/
def isFlagLetter (c : Char) : Bool := 0x1F1E6 ≤ c.toNat && c.toNat ≤ 0x1F1FF

/-- A letter of an invisible tag. -/
def isTagLetter (c : Char) : Bool := 0xE0061 ≤ c.toNat && c.toNat ≤ 0xE007A

/-- A digit of an invisible tag. -/
def isTagDigit (c : Char) : Bool := 0xE0030 ≤ c.toNat && c.toNat ≤ 0xE0039

/-- The end of a tag. -/
def tagEnd : Nat := 0xE007F

/-- The flag that a tag tells more about. -/
def taggedFlag : Nat := 0x1F3F4

/-- A mark that does not show, and over which letters are written as one. -/
def isHiddenMark (c : Char) : Bool :=
  inRanges [(0x34F, 0x34F), (0x17B4, 0x17B5), (0x180B, 0x180D), (0x180F, 0x180F), (0xFE00, 0xFE0F),
    (0xE0100, 0xE01EF)] c.toNat

/-- A form of the Arabic letter alef. -/
def isAlef (c : Char) : Bool :=
  inRanges [(0x622, 0x623), (0x625, 0x625), (0x627, 0x627), (0x671, 0x673), (0x675, 0x675),
    (0x773, 0x774), (0x870, 0x882)] c.toNat

/-- A form of the Arabic letter lam. -/
def isLam (c : Char) : Bool :=
  inRanges [(0x644, 0x644), (0x6B5, 0x6B8), (0x76A, 0x76A), (0x8A6, 0x8A6), (0x8C7, 0x8C7)] c.toNat

/-- A consonant that the Khmer sign coeng puts below another one. -/
def isSubscript (c : Char) : Bool :=
  inRanges [(0x1780, 0x1782), (0x1784, 0x1787), (0x1789, 0x178C), (0x178E, 0x1793),
    (0x1795, 0x1798), (0x179B, 0x179D), (0x17A0, 0x17A0), (0x17A2, 0x17A2), (0x17A7, 0x17A7),
    (0x17AB, 0x17AC), (0x17AF, 0x17AF)] c.toNat

/-- A Tifinagh consonant. -/
def isTifinagh (c : Char) : Bool := inRanges [(0x2D31, 0x2D65), (0x2D6F, 0x2D6F)] c.toNat

/-! ## What a text starts with -/

/-- The end of letters that are written as one. -/
inductive Letter where
  /-- The Arabic alef, which joins a lam. -/
  | alef
  /-- The Hebrew lamed, which a joiner joins to an alef. -/
  | lamed
  /-- A Khmer consonant that goes below another one. -/
  | subscript
  /-- The Buginese ya, which a joiner joins to a vowel sign on an a. -/
  | ya
  | vowelYa
  /-- A Tifinagh consonant, which joins another one. -/
  | tifinagh
  | joinedTifinagh
  /-- A Lisu tone, the second one of two. -/
  | tone
  /-- The Old Turkic i, which a joiner joins to a consonant. -/
  | orkhonI
  deriving DecidableEq

/-- What a text starts with, where that changes the width of a character in front. -/
inductive Start where
  | other
  | lineFeed
  /-- A selector for a picture, or for text. -/
  | selector (picture : Bool)
  | picture
  | skinTone
  /-- A letter of a flag, or several of them. -/
  | flagLetter (several : Bool)
  /-- A joiner and a picture, perhaps with a key and with a selector in front. -/
  | joined (key selected : Bool)
  /-- Some letters of flags in front of a joiner and a picture. -/
  | joinedFlag (letters : Nat)
  /-- The end of a tag with some letters and some digits in front, ahead of a joiner and a
  picture. -/
  | joinedTag (letters digits : Nat)
  /-- A letter, perhaps with a joiner and with a selector in front. -/
  | letter (l : Letter) (joined : Bool) (selected : Option Bool)
  /-- The Kirat Rai vowel sign e, or ai, which make up others. -/
  | kiratE
  | kiratAi
  deriving DecidableEq

/-- What a text that starts with a character starts with, whatever follows. -/
def startOf (c : Char) : Start :=
  let letter := fun l => Start.letter l false none
  let n := c.toNat
  if c = '\n' then .lineFeed
  else if c = pictureSelector then .selector true
  else if c = textSelector then .selector false
  else if isFlagLetter c then .flagLetter false
  else if isSkinTone c then .skinTone
  else if inRanges pictureRanges n then .picture
  else if isAlef c then letter .alef
  else if n = 0x5DC then letter .lamed
  else if isSubscript c then letter .subscript
  else if n = 0x1A10 then letter .ya
  else if isTifinagh c then letter .tifinagh
  else if n = 0xA4FC ∨ n = 0xA4FD then letter .tone
  else if n = 0x10C03 then letter .orkhonI
  else if n = 0x16D67 then .kiratE
  else if n = 0x16D68 then .kiratAi
  else .other

namespace Start

/-- Which selector is at the front. -/
def selected? : Start → Option Bool
  | .selector wanted => some wanted
  | .joined _ true => some true
  | .letter _ _ wanted => wanted
  | _ => none

/-- A start with a selector in front of it. -/
def select (wanted : Bool) : Start → Start
  | .joined key _ => if wanted then .joined key true else .selector false
  | .letter l tied _ => .letter l tied (some wanted)
  | _ => .selector wanted

/-- A start without its selector, which meets nothing that it could select. -/
def unselect : Start → Start
  | .selector _ | .joined _ true => .other
  | .letter l tied _ => .letter l tied none
  | s => s

end Start

/-! ## Characters in front -/

/-- The columns that a character adds in front of a letter with which it is written as one, and what
the text starts with then. -/
def Letter.before? (l : Letter) (tied : Bool) (c : Char) : Option (Int × Start) :=
  let n := c.toNat
  match l with
  | .alef =>
    if isLam c then some (0, .other)
    else if charColumns c = 0 && !inRanges opaqueRanges n then some (0, .letter .alef false none)
    else none
  | .lamed => if tied && n == 0x5D0 then some (0, .other) else none
  | .subscript => if n = 0x17D2 then some (-1, .other) else none
  | .ya => if tied && n == 0x1A17 then some (0, .letter .vowelYa true none) else none
  | .vowelYa => if n = 0x1A15 then some (0, .other) else none
  | .tifinagh =>
    if n = 0x2D7F then some (1, .letter .joinedTifinagh true none)
    else if tied && isTifinagh c then some (0, .other)
    else none
  | .joinedTifinagh => if isTifinagh c then some (-1, .other) else none
  | .tone => if 0xA4F8 ≤ n ∧ n ≤ 0xA4FB then some (0, .other) else none
  | .orkhonI => if tied && n == 0x10C32 then some (0, .other) else none

/-- The columns that a character adds in front of a text with which it makes up a picture or a
letter, and what the text starts with then. -/
def before? (c : Char) : Start → Option (Int × Start)
  | .picture => if c = joiner then some (0, .joined false false) else none
  | .skinTone =>
    if c = joiner then some (0, .joined false false)
    else if inRanges skinRanges c.toNat then some (0, .picture)
    else none
  | .flagLetter several =>
    if isFlagLetter c then some (1, .flagLetter true)
    else if several && c == joiner then some (0, .joined false false)
    else none
  | .joined false _ =>
    if c = keycap then some (0, .joined true false)
    else if isFlagLetter c then some (1, .joinedFlag 1)
    else if isSkinTone c then some (0, .skinTone)
    else if c.toNat = tagEnd then some (0, .joinedTag 0 0)
    else if startOf c = .picture then some (0, .picture)
    else none
  | .joinedFlag letters =>
    if isFlagLetter c then some (if letters % 2 = 1 then -1 else 3, .joinedFlag (letters + 1))
    else if c = joiner && 1 < letters then some (0, .joined false false)
    else none
  | .joinedTag letters digits =>
    if isTagLetter c && digits == 0 && letters < 6 then some (0, .joinedTag (letters + 1) 0)
    else if isTagDigit c && (if digits = 0 then letters < 5 else digits < 3) then
      some (0, .joinedTag letters (digits + 1))
    else if c.toNat = taggedFlag && (if digits = 0 then 3 ≤ letters else digits = 3) then
      some (0, .picture)
    else none
  | .letter l tied wanted =>
    if l = .alef || wanted.isSome then l.before? tied c
    else if c = joiner then some (0, .letter l true none)
    else if isHiddenMark c then some (0, .letter l tied none)
    else l.before? tied c
  | .kiratE =>
    if c.toNat = 0x16D63 ∨ c.toNat = 0x16D69 then some (0, .other)
    else if c.toNat = 0x16D67 then some (0, .kiratAi)
    else if c.toNat = 0x16D68 then some (1, .kiratE)
    else none
  | .kiratAi => if c.toNat = 0x16D63 then some (0, .other) else none
  | _ => none

/-- The columns that a character adds in front of a text, and what the text starts with then. -/
def columnsBefore (c : Char) (next : Start) : Int × Start :=
  if next.selected? = some true ∧ isSelectable c then
    (match next with
      | .joined _ _ => 0
      | _ => 2, .picture)
  else
    let next := if next.selected? = some true then next.unselect else next
    if c.toNat ≤ 0xA0 then
      if c = '\r' ∧ next = .lineFeed then (0, .other)
      else (1, if c = '\n' then .lineFeed else .other)
    else if c = pictureSelector then (0, next.select true)
    else if c = textSelector then (0, next.select false)
    else if next.selected? = some false ∧ narrows c then (1, .other)
    else (before? c next).getD (charColumns c, startOf c)

/-- **The columns of a text**, from its end to its start. -/
def columns (cs : List Char) : Nat :=
  let (sum, _) := cs.foldr (fun c (sum, next) =>
    let (added, start) := columnsBefore c next
    (sum + added, start)) ((0 : Int), Start.other)
  sum.toNat

end Logbook.Text
