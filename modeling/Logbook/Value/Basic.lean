import Logbook.Json.Writer
import Logbook.Number.Numeric
import Logbook.Time.Instant

/-!
# Values

The values of expressions. A member that is missing reads as `undefined`; dates are instants.

* `Value`: the values; the members of an object are in ascending order of name;
* `Value.hint`, `Value.typeName`: the kind of a value in a dictionary and for `typeof`;
* `Value.isNullish`, `Value.isTruthy`, `Value.toNumber`, `Value.display`: what a value counts as
  where a truth value, a number or a text is needed;
* `Value.toJson?`, `Value.ofJson`: to structured data and back.
-/

namespace Logbook

/-- A value of an expression. -/
inductive Value where
  | undefined
  | null
  | bool (b : Bool)
  | num (x : Float)
  | str (s : String)
  | date (t : Instant)
  | arr (items : List Value)
  | obj (members : List (String × Value))

namespace Value

instance : Inhabited Value := ⟨undefined⟩

/-- A text, given by its characters. -/
def ofChars (cs : List Char) : Value := str (String.ofList cs)

/-- A natural number. -/
def ofNat (n : Nat) : Value := num (Binary64.ofNat n)

/-- A text that may be missing. -/
def ofText? : Option String → Value
  | some s => str s
  | none => null

/-! ## Kinds -/

/-- The kind of a value in a dictionary; an empty text has a kind of its own. -/
def hint : Value → String
  | undefined => "undefined"
  | null => "null"
  | bool _ => "boolean"
  | num _ => "number"
  | str s => if s.isEmpty then "empty_string" else "string"
  | date _ => "Date"
  | arr _ => "array"
  | obj _ => "object"

/-- The answer of `typeof`. -/
def typeName : Value → String
  | undefined => "undefined"
  | bool _ => "boolean"
  | num _ => "number"
  | str _ => "string"
  | null | date _ | arr _ | obj _ => "object"

/-- `undefined` or `null`. -/
def isNullish : Value → Bool
  | undefined | null => true
  | _ => false

/-- Whether a value counts as true. -/
def isTruthy : Value → Bool
  | undefined | null => false
  | bool b => b
  | num x => !(x == 0) && !x.isNaN
  | str s => !s.isEmpty
  | date _ | arr _ | obj _ => true

/-! ## Structured data -/

/-- A number: an integer below `9 · 10 ^ 15` as an integer, and nothing but finite numbers. -/
def numberToJson (x : Float) : Json :=
  if !x.isFinite then .null
  else
    match Binary64.isIntegral x, Binary64.integerPart? x with
    | true, some n => if n.natAbs < 9 * Nat.pow 10 15 then .int n else .double x
    | _, _ => .double x

mutual

/-- The structured data of a value; `undefined` has none. -/
def toJson? : Value → Option Json
  | undefined => none
  | null => some .null
  | bool b => some (.bool b)
  | num x => some (numberToJson x)
  | str s => some (.str s)
  | date t => some (.str (String.ofList t.text))
  | arr items => some (.arr (itemsToJson items))
  | obj members => some (.obj (membersToJson members))

/-- The structured data of items, `null` for one that has none. -/
def itemsToJson : List Value → List Json
  | [] => []
  | v :: vs => (toJson? v).getD .null :: itemsToJson vs

/-- The structured data of members, without those that have none. -/
def membersToJson : List (String × Value) → List (String × Json)
  | [] => []
  | (k, v) :: rest =>
    match toJson? v with
    | some j => (k, j) :: membersToJson rest
    | none => membersToJson rest

end

mutual

/-- The value of structured data. -/
def ofJson : Json → Value
  | .null => null
  | .bool b => bool b
  | .int n => num (Binary64.ofInt n)
  | .double x => num x
  | .str s => str s
  | .arr items => arr (itemsOfJson items)
  | .obj members => obj (membersOfJson members)

/-- The values of items. -/
def itemsOfJson : List Json → List Value
  | [] => []
  | j :: js => ofJson j :: itemsOfJson js

/-- The values of members. -/
def membersOfJson : List (String × Json) → List (String × Value)
  | [] => []
  | (k, j) :: rest => (k, ofJson j) :: membersOfJson rest

end

/-! ## Text and number -/

/-- Pieces with commas between them. -/
def commaJoin (pieces : List (List Char)) : List Char := [','].intercalate pieces

mutual

/-- The text that a value counts as. -/
def displayChars : Value → List Char
  | undefined => "undefined".toList
  | null => "null".toList
  | bool b => (if b then "true" else "false").toList
  | num x => numberText x
  | str s => s.toList
  | date t => t.text
  | arr items => commaJoin (displayItems items)
  | obj members => Json.compact (.obj (membersToJson members))

/-- The texts of items, empty for `undefined` and `null`. -/
def displayItems : List Value → List (List Char)
  | [] => []
  | v :: vs => (if v.isNullish then [] else displayChars v) :: displayItems vs

end

/-- The text that a value counts as. -/
def display (v : Value) : String := String.ofList (displayChars v)

/-- The number that a value counts as. -/
def toNumber : Value → Float
  | undefined => Binary64.nan
  | null => Binary64.ofNat 0
  | bool b => Binary64.ofNat (if b then 1 else 0)
  | num x => x
  | str s => numeric s
  | date t => Binary64.ofInt t.millis
  | arr [] => Binary64.ofNat 0
  | arr [v] => numeric v.display
  | arr _ => Binary64.nan
  | obj _ => Binary64.nan

end Value

end Logbook
