import Logbook.Dictionary.Basic
import Logbook.Time.Control
import Logbook.View.Annotation
import Logbook.View.Defaults

/-!
# Queries

* `Query`: the texts of the controls, and how some logs are shown;
* `QueryErrors`: one slot for the error of each control; `QueryErrors.messages` lists those in use;
* `Outcome`: what a query shows.
-/

namespace Logbook

/-- The controls of a view. -/
structure Query where
  /-- The test of a record; a blank one keeps all. -/
  filter : String := ""
  start : String := ""
  finish : String := ""
  /-- The expression for labels. -/
  text : String := ""
  id : String := ""
  color : String := ""
  /-- How some logs are shown, by their names. -/
  logViews : Keyed LogView := []

/-- The errors of the controls. -/
structure QueryErrors where
  filter : Option ExprError := none
  start : Option TimeError := none
  finish : Option TimeError := none
  text : Option ExprError := none
  color : Option ExprError := none
  id : Option ExprError := none

namespace QueryErrors

/-- The names of the slots with what is in them. -/
def slots (e : QueryErrors) : List (String × Option String) :=
  [("filter", e.filter.map ExprError.message), ("start", e.start.map TimeError.message),
   ("end", e.finish.map TimeError.message), ("text", e.text.map ExprError.message),
   ("color", e.color.map ExprError.message), ("id", e.id.map ExprError.message)]

/-- The names of the slots in use with their errors in words. -/
def messages (e : QueryErrors) : List (String × String) :=
  e.slots.filterMap fun s => s.2.map fun m => (s.1, m)

/-- Whether there is no error. -/
def isEmpty (e : QueryErrors) : Bool := e.messages.isEmpty

end QueryErrors

/-- What a query shows. -/
structure Outcome where
  records : List Record
  /-- The annotation of each of the records. -/
  annotations : List Annotation
  dictionary : Dictionary
  start : Option Instant
  finish : Option Instant
  errors : QueryErrors

end Logbook
