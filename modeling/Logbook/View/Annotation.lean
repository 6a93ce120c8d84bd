import Logbook.Expr.Compiled
import Logbook.Query.Select
import Logbook.View.Align
import Logbook.View.Color

/-!
# Annotations

Each selected record gets a label, a color, ids and an alignment. Label, color and ids are computed
by an expression each; one that fails leaves a mark in its own place, and a failing id also colors
the record as an error.

* `idsOf`: the ids of a value, each once;
* `Annotators.annotate`: the annotation of one record;
* **`annotate`**: those of some records, with the first error of each expression;
* **`correlate`**: where each id that several records share occurs.
-/

namespace Logbook

/-- The color of a record on which the color or the id fails. -/
def errorColor : String := "#E00000"

/-- The label of a record on which the label fails. -/
def errorLabel : String := "error"

/-- What is shown of a record. -/
structure Annotation where
  /-- The index of the record. -/
  index : Nat
  label : String
  /-- A number sign and three or six hexadecimal digits. -/
  color : String
  ids : List String
  align : Align
  deriving DecidableEq

/-! ## Ids -/

/-- The list without later copies of an item. -/
def dedup : List String → List String → List String
  | _, [] => []
  | seen, s :: rest => if seen.contains s then dedup seen rest else s :: dedup (s :: seen) rest

/-- **The ids of a value**: the texts of an array's items, each once, or the text of another value;
`undefined` and `null` are no ids. -/
def idsOf : Value → List String
  | .arr items => dedup [] ((items.filter fun v => !v.isNullish).map Value.display)
  | v => if v.isNullish then [] else [v.display]

/-! ## Annotating -/

/-- The expressions for label, color and ids. -/
structure Annotators where
  text : Compiled
  color : Compiled
  id : Compiled

namespace Annotators

/-- The label of a record. -/
def labelOf (a : Annotators) (r : Record) : String :=
  match a.text.eval r with
  | .ok v => v.display
  | .error _ => errorLabel

/-- The ids of a record. -/
def ids (a : Annotators) (r : Record) : List String :=
  match a.id.eval r with
  | .ok v => idsOf v
  | .error _ => []

/-- The color of a record; it shows an error of the color and of the id. -/
def colorOf (a : Annotators) (r : Record) : String :=
  match a.id.eval r, a.color.eval r with
  | .ok _, .ok v => colorFor v
  | _, _ => errorColor

/-- The annotation of a record. -/
def annotate (a : Annotators) (align : String → Align) (r : Record) : Annotation :=
  { index := r.index
    label := a.labelOf r
    color := a.colorOf r
    ids := a.ids r
    align := align r.log }

end Annotators

/-- The first error of each expression. -/
structure AnnotationErrors where
  text : Option ExprError := none
  color : Option ExprError := none
  id : Option ExprError := none

/-- **The annotations of some records**, and the errors that came up. -/
def annotate (rs : List Record) (a : Annotators) (align : String → Align) :
    List Annotation × AnnotationErrors :=
  (rs.map (a.annotate align),
    { text := firstError? a.text.eval rs
      color := firstError? a.color.eval rs
      id := firstError? a.id.eval rs })

/-! ## Correlation -/

/-- The annotations with their positions, from `n` on. -/
def positionsFrom (n : Nat) : List Annotation → List (String × Nat)
  | [] => []
  | a :: rest => a.ids.map (·, n) ++ positionsFrom (n + 1) rest

/-- The positions of each id. -/
def groupPositions (l : List (String × Nat)) : Keyed (List Nat) :=
  l.foldl (fun groups p => Keyed.alter p.1 [] (· ++ [p.2]) groups) []

/-- **The positions of each id that more than one annotation carries.** -/
def correlate (annotations : List Annotation) : Keyed (List Nat) :=
  (groupPositions (positionsFrom 0 annotations)).filter fun g => 1 < g.2.length

end Logbook
