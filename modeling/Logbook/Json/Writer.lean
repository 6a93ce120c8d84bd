import Logbook.Json.Basic
import Logbook.Number.Shortest

/-!
# Writing JSON text

* `quoted`: a text between quotes, with escapes for quotes, backslashes and control characters;
* `doubleText`: a double by its shortest digits, positional from `0.00001` up to below `10 ^ 16`
  and scientific elsewhere;
* `compact`: a value without space;
* `pretty`: a value over several lines, each level two spaces further in.
-/

namespace Logbook.Json

/-- A character inside a quoted text. -/
def escaped (c : Char) : List Char :=
  if c = '"' then ['\\', '"']
  else if c = '\\' then ['\\', '\\']
  else if c = '\x08' then ['\\', 'b']
  else if c = '\x0c' then ['\\', 'f']
  else if c = '\n' then ['\\', 'n']
  else if c = '\r' then ['\\', 'r']
  else if c = '\t' then ['\\', 't']
  else if c.toNat < 0x20 then ['\\', 'u', '0', '0'] ++ Text.hexByte c.toNat
  else [c]

/-- A text between quotes. -/
def quoted (s : String) : List Char := '"' :: (s.toList.flatMap escaped ++ ['"'])

/-- A positive finite double by its shortest digits. -/
def positiveText (x : Float) : List Char :=
  let d := Decimal.shortest .toEven x
  let e := d.firstExponent
  if -5 ≤ e ∧ e < 16 then
    let text := d.positional
    if text.contains '.' then text else text ++ ['.', '0']
  else d.scientific

/-- A double; one that is not finite has no digits and is written `null`. -/
def doubleText (x : Float) : List Char :=
  if !x.isFinite then ['n', 'u', 'l', 'l']
  else
    (if Binary64.isNegative x then ['-'] else [])
      ++ if x == 0 then ['0', '.', '0'] else positiveText x.abs

mutual

/-- A value without space between its tokens. -/
def compact : Json → List Char
  | .null => ['n', 'u', 'l', 'l']
  | .bool b => if b then ['t', 'r', 'u', 'e'] else ['f', 'a', 'l', 's', 'e']
  | .int n => Text.signed n
  | .double x => doubleText x
  | .str s => quoted s
  | .arr items => '[' :: (compactItems items ++ [']'])
  | .obj members => '\x7b' :: (compactMembers members ++ ['\x7d'])

/-- The items of an array with commas between them. -/
def compactItems : List Json → List Char
  | [] => []
  | [v] => compact v
  | v :: vs => compact v ++ ',' :: compactItems vs

/-- The members of an object with commas between them. -/
def compactMembers : List (String × Json) → List Char
  | [] => []
  | [(k, v)] => quoted k ++ ':' :: compact v
  | (k, v) :: rest => quoted k ++ ':' :: (compact v ++ ',' :: compactMembers rest)

end

/-- A line break and the space in front of a line at some level. -/
def newLine (level : Nat) : List Char := '\n' :: List.replicate (2 * level) ' '

mutual

/-- A value over several lines, its first line at `level`. -/
def prettyAt (level : Nat) : Json → List Char
  | .arr [] => ['[', ']']
  | .arr items => '[' :: (prettyItems (level + 1) items ++ newLine level ++ [']'])
  | .obj [] => ['\x7b', '\x7d']
  | .obj members => '\x7b' :: (prettyMembers (level + 1) members ++ newLine level ++ ['\x7d'])
  | .null => ['n', 'u', 'l', 'l']
  | .bool b => if b then ['t', 'r', 'u', 'e'] else ['f', 'a', 'l', 's', 'e']
  | .int n => Text.signed n
  | .double x => doubleText x
  | .str s => quoted s

/-- The items of an array, each on lines of its own. -/
def prettyItems (level : Nat) : List Json → List Char
  | [] => []
  | [v] => newLine level ++ prettyAt level v
  | v :: vs => newLine level ++ prettyAt level v ++ ',' :: prettyItems level vs

/-- The members of an object, each on lines of its own. -/
def prettyMembers (level : Nat) : List (String × Json) → List Char
  | [] => []
  | [(k, v)] => newLine level ++ quoted k ++ [':', ' '] ++ prettyAt level v
  | (k, v) :: rest =>
    newLine level ++ quoted k ++ [':', ' '] ++ prettyAt level v ++ ',' :: prettyMembers level rest

end

/-- A value over several lines. -/
def pretty (v : Json) : List Char := prettyAt 0 v

end Logbook.Json
