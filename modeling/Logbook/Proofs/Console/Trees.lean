import Logbook.Message.Relaxed
import Logbook.Proofs.Message.Relaxed

/-!
# Values as a console prints them

Objects with bare names, arrays, texts in single quotes and members that are `undefined`.

* `Tree`, **`Tree.write`**: the values and their notation;
* `Tree.toJson`: the structured data that such a value is, without its undefined members;
* `BareName`, `PlainText`, `Tree.Fits`: what the names, texts and numbers have to satisfy;
* `settledText`, `Tree.settle`: what relaxed reading makes of the texts;
* `calmText`, `Tree.Calm`: texts in which it finds no name.
-/

namespace Logbook.Console

open Relaxed

/-- A value as a console prints it; `undefined` is the value of a member only. -/
inductive Tree where
  | undefined
  | null
  | bool (b : Bool)
  | int (n : Int)
  | str (s : String)
  | arr (items : List Tree)
  | obj (members : List (String × Tree))

/-- A truth value in words. -/
def boolWord (b : Bool) : List Char := if b then ['t', 'r', 'u', 'e'] else ['f', 'a', 'l', 's', 'e']

/-- The word for the value that is none. -/
def nullWord : List Char := ['n', 'u', 'l', 'l']

namespace Tree

/-- Whether a value is missing. -/
def isUndefined : Tree → Bool
  | undefined => true
  | _ => false

/-! ## Notation -/

mutual

/-- **The notation of a value.** -/
def write : Tree → List Char
  | undefined => undefinedWord
  | null => nullWord
  | bool b => boolWord b
  | int n => Text.signed n
  | str s => '\'' :: (s.toList ++ ['\''])
  | arr items => '[' :: (writeItems items ++ [']'])
  | obj members => '\x7b' :: (writeMembers members ++ ['\x7d'])

/-- Items with commas between them. -/
def writeItems : List Tree → List Char
  | [] => []
  | [v] => v.write
  | v :: w :: vs => v.write ++ ',' :: ' ' :: writeItems (w :: vs)

/-- Members with commas between them, each behind its name. -/
def writeMembers : List (String × Tree) → List Char
  | [] => []
  | [(k, v)] => k.toList ++ ':' :: ' ' :: v.write
  | (k, v) :: m :: ms => k.toList ++ ':' :: ' ' :: (v.write ++ ',' :: ' ' :: writeMembers (m :: ms))

end

example : write (.obj [("a", .str "x"), ("b", .undefined), ("c", .arr [.int (-1), .null])]) =
    "\x7ba: 'x', b: undefined, c: [-1, null]\x7d".toList := by
  decide +kernel

/-! ## Structured data -/

mutual

/-- The structured data of a value. -/
def toJson : Tree → Json
  | undefined => .null
  | null => .null
  | bool b => .bool b
  | int n => .int n
  | str s => .str s
  | arr items => .arr (itemsJson items)
  | obj members => .obj (Keyed.ofList (membersJson members))

/-- The structured data of items. -/
def itemsJson : List Tree → List Json
  | [] => []
  | v :: vs => v.toJson :: itemsJson vs

/-- The structured data of the members that have a value. -/
def membersJson : List (String × Tree) → List (String × Json)
  | [] => []
  | (k, v) :: ms => if v.isUndefined then membersJson ms else (k, v.toJson) :: membersJson ms

end

end Tree

/-! ## Names, texts and numbers -/

/-- A name that is printed without quotes. -/
def BareName (k : List Char) : Prop := k ≠ [] ∧ ∀ c ∈ k, isNameChar c = true

/-- A text without quotes, backslashes and control characters. -/
def PlainText (s : List Char) : Prop :=
  ∀ c ∈ s, c ≠ '"' ∧ c ≠ '\'' ∧ c ≠ '\\' ∧ ¬c.toNat < 0x20

namespace Tree

mutual

/-- A value with names, texts and integers that are read back, nested at most `room` deep. -/
def Fits : Nat → Tree → Prop
  | _, undefined => False
  | _, null => True
  | _, bool _ => True
  | _, int n => -0x8000000000000000 ≤ n ∧ n < 0x10000000000000000
  | _, str s => PlainText s.toList
  | 0, arr _ => False
  | room + 1, arr items => FitsItems room items
  | 0, obj _ => False
  | room + 1, obj members => FitsMembers room members

/-- All items fit. -/
def FitsItems : Nat → List Tree → Prop
  | _, [] => True
  | room, v :: vs => v.Fits room ∧ FitsItems room vs

/-- All members fit, or have no value. -/
def FitsMembers : Nat → List (String × Tree) → Prop
  | _, [] => True
  | room, (k, v) :: ms =>
    BareName k.toList ∧ (v.isUndefined = true ∨ v.Fits room) ∧ FitsMembers room ms

end

/-- An array or an object. -/
def IsStructure : Tree → Prop
  | arr _ | obj _ => True
  | _ => False

end Tree

/-! ## What becomes of texts -/

/-- What relaxed reading makes of a text, as a member or as an item: commas before closing brackets
are left out, and the mask for colons, which only a member has for its own ones, is read as a
colon. -/
def settledText (member : Bool) (s : List Char) : List Char :=
  unmaskColons (dropTrailingCommas (if member then masked s else s))

/-- A text in which no name stands in front of a colon and no colon at the end. -/
def calmText : List Char → Bool
  | [] => true
  | c :: cs =>
    (if c = ':' then !cs.all Text.isBlank else !(isNameChar c && cs.head? == some ':')) &&
      calmText cs

namespace Tree

mutual

/-- A value with what relaxed reading makes of its texts. -/
def settle (member : Bool) : Tree → Tree
  | undefined => undefined
  | null => null
  | bool b => bool b
  | int n => int n
  | str s => str (String.ofList (settledText member s.toList))
  | arr items => arr (settleItems items)
  | obj members => obj (settleMembers members)

/-- The items with what relaxed reading makes of their texts. -/
def settleItems : List Tree → List Tree
  | [] => []
  | v :: vs => v.settle false :: settleItems vs

/-- The members with what relaxed reading makes of their texts. -/
def settleMembers : List (String × Tree) → List (String × Tree)
  | [] => []
  | (k, v) :: ms => (k, v.settle true) :: settleMembers ms

end

mutual

/-- No name is found in a text of an array. -/
def Calm (member : Bool) : Tree → Prop
  | str s => member = true ∨ calmText s.toList = true
  | arr items => CalmItems items
  | obj members => CalmMembers members
  | undefined | null | bool _ | int _ => True

/-- No name is found in a text among some items. -/
def CalmItems : List Tree → Prop
  | [] => True
  | v :: vs => v.Calm false ∧ CalmItems vs

/-- No name is found in a text among some members. -/
def CalmMembers : List (String × Tree) → Prop
  | [] => True
  | (_, v) :: ms => v.Calm true ∧ CalmMembers ms

end

end Tree

end Logbook.Console
