import Logbook.Value.Basic

/-!
# Shapes

A shape says which kinds of values were seen at one place of some values, and what was seen at the
places below: at the members of the objects, each under its name, and at the items of the arrays,
all of them under the name `ELEMENT`.

* `Shape.see`: a shape after one more value;
* `Shape.markAbsent`: a shape that also says where a member is missing, or where items are and the
  value is no array.
-/

namespace Logbook

/-- The name under which the items of arrays are described. -/
def elementName : String := "ELEMENT"

/-- What was seen at one place. -/
structure Shape where
  /-- The kinds of the values other than arrays and objects, as they came up. -/
  kinds : List String := []
  /-- Whether there was an array. -/
  array : Bool := false
  /-- Whether there was an object. -/
  object : Bool := false
  /-- What was seen at the members and the items, by name. -/
  members : List (String × Shape) := []

namespace Shape

/-- A kind is listed once, at its first place. -/
def addKind (kind : String) (s : Shape) : Shape :=
  if s.kinds.contains kind then s else { s with kinds := s.kinds ++ [kind] }

mutual

/-- A shape after one more value. -/
def see : Value → Shape → Shape
  | .arr items, s => { s with array := true, members := seeItems items s.members }
  | .obj ms, s => { s with object := true, members := seeMembers ms s.members }
  | v, s => s.addKind v.hint

/-- The shapes below an array after its items. -/
def seeItems : List Value → List (String × Shape) → List (String × Shape)
  | [], shapes => shapes
  | v :: vs, shapes => seeItems vs (Keyed.alter elementName {} (fun s => see v s) shapes)

/-- The shapes below an object after its members. -/
def seeMembers : List (String × Value) → List (String × Shape) → List (String × Shape)
  | [], shapes => shapes
  | (k, v) :: rest, shapes => seeMembers rest (Keyed.alter k {} (fun s => see v s) shapes)

end

/-! ## What is missing -/

/-- The items of a value; only an array has items. -/
def itemsOf? : Value → Option (List Value)
  | .arr items => some items
  | _ => none

/-- The member of a value; only an object has members. -/
def memberOf? (name : String) : Value → Option Value
  | .obj ms => Keyed.find? name ms
  | _ => none

/-- What each of some values has below it at `name`: its items or its member, or nothing. -/
def stepInto (name : String) (vs : List Value) : List (Option (List Value)) :=
  if name = elementName then vs.map itemsOf?
  else vs.map fun v => (memberOf? name v).map ([·])

/-- The values below some values at `name`; a missing member counts as `undefined`. -/
def reached (name : String) (vs : List Value) : List Value :=
  (stepInto name vs).flatMap fun l => l.getD (if name = elementName then [] else [.undefined])

/-- The kind `undefined`, where something is missing. -/
def addMissing (name : String) (vs : List Value) (s : Shape) : Shape :=
  if (stepInto name vs).any Option.isNone then s.addKind "undefined" else s

mutual

/-- The shape below some values at `name`, with a mark on every place where something is
missing. -/
def markAbsent (name : String) (vs : List Value) : Shape → Shape
  | ⟨kinds, array, object, members⟩ =>
    addMissing name vs ⟨kinds, array, object, markMembers (reached name vs) members⟩

/-- The shapes below some values, with a mark on every place where something is missing. -/
def markMembers (vs : List Value) : List (String × Shape) → List (String × Shape)
  | [] => []
  | (k, s) :: rest => (k, markAbsent k vs s) :: markMembers vs rest

end

end Shape

end Logbook
