import Logbook.Toml.Reader
import Logbook.View.Defaults

/-!
# Profiles

A profile is a name with the defaults of a view. It is written as a TOML text in which everything
may be left out and what is not known is passed over.

* `Profile`: a profile; the one with all defaults is `{}`;
* `Profile.view?`: the defaults of a view from a table, or from an array with the fields in their
  order;
* **`Profile.parse?`**: the profile of a text.
-/

namespace Logbook

/-- A name with the defaults of a view. -/
structure Profile where
  name : String := "base"
  view : ViewDefaults := {}
  deriving DecidableEq, Repr

namespace Profile

/-- A field that may be missing: its default, or what `read` makes of its value. -/
def fieldOr {α : Type} (default : α) (read : Toml → Option α) : Option Toml → Option α
  | none => some default
  | some v => read v

/-- A text. -/
def text? : Toml → Option String
  | .text s => some s
  | _ => none

/-- A number that is not negative. -/
def count? : Toml → Option Nat
  | .integer n => if 0 ≤ n then some n.toNat else none
  | _ => none

/-- A table or an array without anything in it. -/
def isUnit : Toml → Bool
  | .array [] => true
  | .table _ [] => true
  | .tables [] => true
  | _ => false

/-- An alignment: its name, or a table with the name as the key of an empty value. Between braces
that is the only key, elsewhere the first one. -/
def align? : Toml → Option Align
  | .text s => Align.ofName? s
  | .table .inline [(key, v)] => if isUnit v then Align.ofName? key else none
  | .table .inline _ => none
  | .table _ ((key, v) :: _) => if isUnit v then Align.ofName? key else none
  | _ => none

/-- The fields of a view, in their order. -/
def fieldNames : List String :=
  ["filter", "start", "end", "text", "id", "color", "details", "align_for_other_logs",
   "align_for_server_log", "threshold_for_visible"]

/-- The defaults of a view, where `get` finds the values of fields. -/
def readView? (get : String → Option Toml) : Option ViewDefaults := do
  let d : ViewDefaults := {}
  let filter ← fieldOr d.filter text? (get "filter")
  let start ← fieldOr d.start text? (get "start")
  let finish ← fieldOr d.finish text? (get "end")
  let text ← fieldOr d.text text? (get "text")
  let id ← fieldOr d.id text? (get "id")
  let color ← fieldOr d.color text? (get "color")
  let details ← fieldOr d.details text? (get "details")
  let alignForOtherLogs ← fieldOr d.alignForOtherLogs align? (get "align_for_other_logs")
  let alignForServerLog ← fieldOr d.alignForServerLog align? (get "align_for_server_log")
  let thresholdForVisible ← fieldOr d.thresholdForVisible count? (get "threshold_for_visible")
  some
    { filter, start, finish, text, id, color, details, alignForOtherLogs, alignForServerLog,
      thresholdForVisible }

/-- The defaults of a view from the value at `view`. A date has none of the fields. -/
def view? : Toml → Option ViewDefaults
  | .table _ entries => readView? (Toml.Entries.get? entries)
  | .array items => readView? fun name => items[fieldNames.idxOf name]?
  | .tables rows => readView? fun name => (rows[fieldNames.idxOf name]?).map (.table .header)
  | .date => some {}
  | _ => none

/-- The profile of the entries of a text. -/
def ofEntries? (t : Toml.Entries) : Option Profile := do
  let d : Profile := {}
  let name ← fieldOr d.name text? (t.get? "profile_name")
  let view ← fieldOr d.view view? (t.get? "view")
  some { name, view }

/-- **The profile of a text**, if it is one. -/
def parse? (text : String) : Option Profile := (Toml.parse? text.toList).bind ofEntries?

/-- Whether a profile has all defaults. -/
def isDefault (p : Profile) : Bool := p == {}

end Profile

end Logbook
