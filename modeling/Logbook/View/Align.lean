import Logbook.Text.CaseMap

/-!
# Alignment

* `Align`: the side of the label column on which the labels of a log stand;
* `Align.ofText?`: an alignment by its name, in upper or lower case;
* `Align.errorText`: what is said of a text that is none.
-/

namespace Logbook

/-- Where a label stands in its column. -/
inductive Align where
  | left
  | center
  | right
  deriving DecidableEq, Repr, Inhabited

namespace Align

/-- The name of an alignment. -/
def name : Align → String
  | .left => "left"
  | .center => "center"
  | .right => "right"

/-- All alignments. -/
def all : List Align := [.left, .center, .right]

/-- The alignment with exactly this name. -/
def ofName? (s : String) : Option Align := all.find? fun a => a.name == s

/-- The alignment with this name in any case. -/
def ofText? (s : String) : Option Align := ofName? (String.ofList (Text.lower s.toList))

/-- What is said of a text that names no alignment. -/
def errorText (s : String) : String :=
  "Invalid alignment: '" ++ s ++ "'. Must be one of: left, center, right"

@[simp] theorem ofName?_name (a : Align) : ofName? a.name = some a := by cases a <;> rfl

end Align

end Logbook
