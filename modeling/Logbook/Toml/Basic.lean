/-!
# Configuration values

The data model of TOML, as far as a reader of text, integers and tables has to know it. Entries keep
the order in which they were written.

* `Toml`: the values; a table remembers how it came about, since that decides what may still be
  added to it;
* `Toml.Entries.descend`: a change of the table at the end of a path, with the tables on the way;
* `Toml.Entries.open?`, `Toml.Entries.openRow?`, `Toml.Entries.assign?`: what a header, a header of
  an array of tables and an assignment do; none of them writes anything twice.
-/

namespace Logbook

/-- How a table came about. -/
inductive Toml.Origin where
  /-- By a header of its own, or as the root. -/
  | header
  /-- By the header of a table below it. -/
  | implied
  /-- By a key of several parts. -/
  | dotted
  /-- Between braces; nothing can be added. -/
  | inline
  deriving DecidableEq, Repr

/-- A value. -/
inductive Toml where
  | text (s : String)
  | integer (n : Int)
  | float
  | boolean
  | date
  | array (items : List Toml)
  | table (origin : Toml.Origin) (entries : List (String × Toml))
  /-- An array of tables, each with a header of its own. -/
  | tables (rows : List (List (String × Toml)))
  deriving Inhabited

namespace Toml

/-- The entries of a table in the order in which they were written. -/
abbrev Entries := List (String × Toml)

namespace Entries

/-- The value at a key. -/
def get? (t : Entries) (key : String) : Option Toml := t.lookup key

/-- The entries with another value at a key, in its old place. -/
def replace (t : Entries) (key : String) (v : Toml) : Entries :=
  t.map fun e => if e.1 == key then (key, v) else e

/-- Changes the table at the end of a path. Tables that are missing on the way come about as `made`;
a path of parts of one key goes through no table that has a header. -/
def descend (made : Origin) (change : Origin → Entries → Option Entries) :
    List String → Origin → Entries → Option Entries
  | [], origin, t => change origin t
  | key :: path, _, t =>
    match t.get? key with
    | none => (descend made change path made []).map fun inner => t ++ [(key, .table made inner)]
    | some (.table origin entries) =>
      if origin = .inline ∨ (made = .dotted ∧ origin = .header) then none
      else (descend made change path origin entries).map fun inner =>
        t.replace key (.table origin inner)
    | some (.tables rows) =>
      (descend made change path .header (rows.getLast?.getD [])).map fun inner =>
        t.replace key (.tables (rows.dropLast ++ [inner]))
    | some _ => none

/-- Opens the table of a header as the last entry. It must not have been there, unless for a table
below it. -/
def openLast? (key : String) (t : Entries) : Option Entries :=
  match t.get? key with
  | none => some (t ++ [(key, .table .header [])])
  | some (.table .implied entries) =>
    some (t.filter (fun e => e.1 != key) ++ [(key, .table .header entries)])
  | some _ => none

/-- Adds a row to the array of tables of a header. -/
def openLastRow? (key : String) (t : Entries) : Option Entries :=
  match t.get? key with
  | none => some (t ++ [(key, .tables [[]])])
  | some (.tables rows) => some (t.replace key (.tables (rows ++ [[]])))
  | some _ => none

/-- Follows a path to its last part. -/
def atLast (change : String → Entries → Option Entries) (path : List String) (root : Entries) :
    Option Entries :=
  match path.getLast? with
  | some key => descend .implied (fun _ t => change key t) path.dropLast .header root
  | none => none

/-- **Opens the table** of the header with this path. -/
def open? (path : List String) (root : Entries) : Option Entries := atLast openLast? path root

/-- **Adds a row** to the array of tables of the header with this path. -/
def openRow? (path : List String) (root : Entries) : Option Entries := atLast openLastRow? path root

/-- Writes a value at a key of several parts. A table that is not made of such keys takes keys of
one part only. -/
def assignHere? (path : List String) (v : Toml) (origin : Origin) (t : Entries) : Option Entries :=
  match path.getLast? with
  | none => none
  | some key =>
    let change := fun (o : Origin) (t : Entries) =>
      if (o == .dotted) == path.dropLast.isEmpty || (t.get? key).isSome then none
      else some (t ++ [(key, v)])
    descend .dotted change path.dropLast origin t

/-- **Writes a value** at a key of the table with the path `header`. -/
def assign? (header path : List String) (v : Toml) (root : Entries) : Option Entries :=
  descend .implied (fun _ t => assignHere? path v .header t) header .header root

end Entries

end Toml

end Logbook
