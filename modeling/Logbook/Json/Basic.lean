import Logbook.Keyed

/-!
# Structured data

The data model of JSON, in which integers and doubles are told apart.

* `Json`: the values; the members of an object are in ascending order of name;
* `Json.member?`, `Json.item?`: going down into a value.
-/

namespace Logbook

/-- A structured value. The members of an object are in ascending order of name. -/
inductive Json where
  | null
  | bool (b : Bool)
  /-- An integer, written without a fraction or an exponent. -/
  | int (n : Int)
  /-- A number with a fraction or an exponent. -/
  | double (x : Float)
  | str (s : String)
  | arr (items : List Json)
  | obj (members : List (String × Json))
  deriving Inhabited

namespace Json

/-- The member of that name of an object. -/
def member? (name : String) : Json → Option Json
  | .obj members => Keyed.find? name members
  | _ => none

/-- The value at a number: an item of an array, or the member of an object that has the number for
its name. -/
def item? (i : Nat) : Json → Option Json
  | .obj members => Keyed.find? (toString i) members
  | .arr items => items[i]?
  | _ => none

/-- Whether a value is `null`. -/
def isNull : Json → Bool
  | .null => true
  | _ => false

/-- The text of a text. -/
def text? : Json → Option String
  | .str s => some s
  | _ => none

end Json

end Logbook
