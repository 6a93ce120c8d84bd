import Logbook.Dictionary.Shape
import Logbook.Message.Record

/-!
# Dictionaries

A dictionary describes the members that some records have, at any depth: which kinds of values
there are at each of them, and whether some record lacks it.

* `Entry`: the description of one member; `Entry.hint` puts its kinds into words;
* **`dictionary`**: the dictionary of some records;
* `flatten`: the rows of a dictionary, each with the path to a member;
* `Entry.toJson`, `dictionaryToJson`: a dictionary as structured data.
-/

namespace Logbook

/-- The description of one member. -/
structure Entry where
  /-- The kinds of its values. -/
  kinds : List String
  /-- A remark on a field of the record. -/
  note : String := ""
  /-- The members below it, where some of its values are arrays or objects. -/
  nested : Option (List (String × Entry)) := none

/-- The entries by the names of members, in ascending order. -/
abbrev Dictionary := List (String × Entry)

/-- The kinds and the remark of an entry. -/
def Entry.hint (e : Entry) : String :=
  (if e.kinds.isEmpty then "none" else " | ".intercalate e.kinds) ++ e.note

/-- The kinds of a shape: arrays and objects come last. -/
def Shape.allKinds (s : Shape) : List String :=
  s.kinds ++ (if s.array then ["array"] else []) ++ if s.object then ["object"] else []

mutual

/-- The entry of a shape. -/
def Shape.toEntry : Shape → Entry
  | ⟨kinds, array, object, members⟩ =>
    { kinds := Shape.allKinds ⟨kinds, array, object, members⟩
      nested := if array || object then some (Shape.toEntries members) else none }

/-- The entries of shapes. -/
def Shape.toEntries : List (String × Shape) → List (String × Entry)
  | [] => []
  | (k, s) :: rest => (k, s.toEntry) :: Shape.toEntries rest

end

/-- The remark on a field. -/
def Field.note : Field → String
  | .log => "  -- which logfile it came in; for lsp is \"client / server\""
  | .message => "  -- the entire message"
  | .tags =>
    "  -- a list of any [...] tags at the start of the message, other than time-like ones"
  | .time => "  -- one of the timelike [...] tag from the start of the message"
  | .line => "  -- the first line of the message, after all the tags"
  | .title => "  -- if line had the form \"title: body\" then this is the title"
  | .body => "  -- this is however much of line after the title has been removed"
  | .id =>
    "  -- best-guess as to the most important id; for lsp cancellation the id being cancelled"
  | .filename => "  -- best-guess as to an (unqualified) filename found in the message"
  | .payload => "  -- best-guess if the end of the message looked like json object or array"

/-- A record as an object of its fields. -/
def Record.toValue (r : Record) : Value :=
  .obj (Keyed.ofList (Field.all.map fun f => (f.name, r.field f)))

/-- An entry with the remark on the field of this name. -/
def withNote (p : String × Entry) : String × Entry :=
  match Field.ofName? p.1 with
  | some f => (p.1, { p.2 with note := f.note })
  | none => p

/-- The shapes of the fields of some records. -/
def fieldShapes (rs : List Record) : List (String × Shape) :=
  let values := rs.map Record.toValue
  Shape.markMembers values (values.foldl (fun s v => Shape.see v s) {}).members

/-- **The dictionary of some records.** -/
def dictionary (rs : List Record) : Dictionary :=
  (Shape.toEntries (fieldShapes rs)).map withNote

/-! ## Rows -/

/-- The path to the member `name` below `path`. -/
def memberPath (path name : String) : String :=
  if name = elementName then path ++ "[]"
  else if path.isEmpty then name
  else path ++ "." ++ name

mutual

/-- The rows below an entry at `path`. -/
def Entry.rows (path : String) : Entry → List (String × String)
  | ⟨_, _, some nested⟩ => entryRows path nested
  | ⟨_, _, none⟩ => []

/-- The rows of entries below `path`. -/
def entryRows (path : String) : List (String × Entry) → List (String × String)
  | [] => []
  | (k, e) :: rest =>
    (memberPath path k, e.hint) :: (e.rows (memberPath path k) ++ entryRows path rest)

end

/-- **The rows of a dictionary**: the path to each member with its hint, a member ahead of those
below it. -/
def flatten (d : Dictionary) : List (String × String) := entryRows "" d

/-! ## Structured data -/

mutual

/-- The hint of an entry and the entries below it. -/
def Entry.toJson : Entry → Json
  | ⟨kinds, note, some nested⟩ =>
    .obj [("hint", .str (Entry.hint ⟨kinds, note, none⟩)), ("nested", .obj (entriesToJson nested))]
  | ⟨kinds, note, none⟩ => .obj [("hint", .str (Entry.hint ⟨kinds, note, none⟩))]

/-- Entries by their names. -/
def entriesToJson : List (String × Entry) → List (String × Json)
  | [] => []
  | (k, e) :: rest => (k, e.toJson) :: entriesToJson rest

end

/-- A dictionary as structured data. -/
def dictionaryToJson (d : Dictionary) : Json := .obj (entriesToJson d)

end Logbook
