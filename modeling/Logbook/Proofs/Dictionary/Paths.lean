import Logbook.Dictionary.Basic

/-!
# Paths

A path goes down into a value by steps to members and items. A dictionary has the step to an item
under the name `ELEMENT`, so a path is written as a list of names.

* `Step`, `Step.written`: the steps and how they are written;
* `Leads`, `Reached`: the values at the end of a path, from one value or from some records;
* `Value.Lacks`, `Instance`: what is missing at a step, and the values at a path when a missing
  member counts as `undefined`;
* `Entry.at?`, `Dictionary.at?`: the entry that a dictionary has at a written path.
-/

namespace Logbook

/-- A step down into a value. -/
inductive Step where
  /-- To the member of this name of an object. -/
  | member (name : String)
  /-- To an item of an array. -/
  | item
  deriving DecidableEq

/-- The name under which a dictionary describes what a step leads to. -/
def Step.written : Step → String
  | .member name => name
  | .item => elementName

/-- The values that a path leads to from a value. -/
inductive Leads : List Step → Value → Value → Prop where
  | here (v : Value) : Leads [] v v
  | member {name : String} {ms : List (String × Value)} {v w : Value} {p : List Step} :
    (name, v) ∈ ms → Leads p v w → Leads (.member name :: p) (.obj ms) w
  | item {items : List Value} {v w : Value} {p : List Step} :
    v ∈ items → Leads p v w → Leads (.item :: p) (.arr items) w

/-- **A written path reaches a value** of some record, read as the object of its fields. -/
def Reached (rs : List Record) (path : List String) (w : Value) : Prop :=
  ∃ r ∈ rs, ∃ p : List Step, p.map Step.written = path ∧ Leads p r.toValue w

/-- A value has nothing at a step: it is no object with such a member, or no array. -/
def Value.Lacks (x : Value) : Step → Prop
  | .member name => ∀ ms, x = .obj ms → Keyed.find? name ms = none
  | .item => ∀ items, x ≠ .arr items

/-- **The instances of a path** in some records: a value that lacks a member has `undefined` there,
and one that is no array has no items. -/
inductive Instance (rs : List Record) : List Step → Value → Prop where
  | root {r : Record} : r ∈ rs → Instance rs [] r.toValue
  | member {p : List Step} {name : String} {ms : List (String × Value)} {w : Value} :
    Instance rs p (.obj ms) → Keyed.find? name ms = some w → Instance rs (p ++ [.member name]) w
  | missing {p : List Step} {name : String} {x : Value} :
    Instance rs p x → x.Lacks (.member name) → Instance rs (p ++ [.member name]) .undefined
  | item {p : List Step} {items : List Value} {w : Value} :
    Instance rs p (.arr items) → w ∈ items → Instance rs (p ++ [.item]) w

/-- The entry at a path below an entry. -/
def Entry.at? : List String → Entry → Option Entry
  | [], e => some e
  | name :: path, e => (Keyed.find? name (e.nested.getD [])).bind (at? path)

/-- The entry of a dictionary at a path; there is none for the records themselves. -/
def Dictionary.at? (d : Dictionary) : List String → Option Entry
  | [] => none
  | name :: path => (Keyed.find? name d).bind (Entry.at? path)

end Logbook
