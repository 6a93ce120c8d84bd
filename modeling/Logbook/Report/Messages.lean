import Logbook.Report.Style
import Logbook.Session

/-!
# The report on a query

* `recordLine`: one line for a record: its time, its log, its label on its color, and its ids;
* **`messagesDocument`**: the lines of the records, each with its details, then how many they are,
  and the errors;
* **`messagesJson`**: the same as structured data.
-/

namespace Logbook.Report

/-- The width of the column of labels. -/
def labelWidth : Nat := 60

/-- The width of the column of times. -/
def timeWidth : Nat := 12

/-- A text of at least `width` characters, with spaces behind it. -/
def padRight (width : Nat) (cs : List Char) : List Char :=
  cs ++ List.replicate (width - cs.length) ' '

/-- A text without line breaks, cut to the width of the column of labels. -/
def oneLine (cs : List Char) : List Char :=
  let line := cs.map fun c => if c = '\n' ∨ c = '\r' then ' ' else c
  if labelWidth < line.length then line.take (labelWidth - 1) ++ ['…'] else line

/-- A text in the column of labels. -/
def aligned (a : Align) (cs : List Char) : List Char :=
  let room := labelWidth - cs.length
  let before := match a with
    | .left => 0
    | .center => room / 2
    | .right => room
  List.replicate before ' ' ++ cs ++ List.replicate (room - before) ' '

/-- The label of a record on its color. -/
def labelSpan (a : Annotation) : Span :=
  { text := aligned a.align (oneLine a.label.toList)
    style := match Rgb.read a.color.toList with
      | .ok (some c) => { ground := some c, ink := some .black }
      | _ => {} }

/-- The ids of a record. -/
def idSpans (ids : List String) : List Span :=
  if ids.isEmpty then []
  else
    [{ text := " [".toList ++ ", ".toList.intercalate (ids.map String.toList) ++ [']']
       style := { ink := some .gray } }]

/-- The time of a record as a control, with the reference date of all records. -/
def timeText (reference : Option Instant) (r : Record) : List Char :=
  match r.time with
  | some t => (Control.format t reference).toList
  | none => []

/-- The line of a record. -/
def recordLine (reference : Option Instant) (logWidth : Nat) (r : Record) (a : Annotation) :
    Document :=
  [{ text := padRight timeWidth (timeText reference r), style := { emphasis := some .dimmed } },
   { text := [' '] },
   { text := padRight logWidth r.log.toList, style := { ink := some .cyan } },
   { text := [' '] },
   labelSpan a]
  ++ idSpans a.ids ++ [{ text := ['\n'] }]

/-- The lines of a text, each further in. -/
def detailLines (text : String) : Document :=
  (Text.lineRun text.toList).map fun l => { text := "    ".toList ++ l ++ ['\n'] }

/-- The details of the record at a place. -/
def detailsAt (details : List (Option String)) (i : Nat) : Option String := (details[i]?).join

/-- The lines of records and annotations, each with its details. -/
def recordLines (reference : Option Instant) (logWidth : Nat) (details : List (Option String)) :
    Nat → List (Record × Annotation) → Document
  | _, [] => []
  | i, (r, a) :: rest =>
    recordLine reference logWidth r a
      ++ ((detailsAt details i).map detailLines).getD []
      ++ recordLines reference logWidth details (i + 1) rest

/-- How many messages there are, of all. -/
def summaryLine (shown total : Nat) : Document :=
  [{ text := Text.decimal shown ++ " of ".toList ++ Text.decimal total ++ " messages".toList
     style := { emphasis := some .bold } },
   { text := ['\n'] }]

/-- The line of an error. -/
def errorLine (slot message : String) : Document :=
  [{ text := slot.toList ++ [':'], style := { emphasis := some .bold, ink := some .red } },
   { text := [' '] },
   { text := message.toList, style := { ink := some .red } },
   { text := ['\n'] }]

/-- The errors of a query, and the one of its details. -/
def allErrors (o : Outcome) (detailsError : Option String) : List (String × String) :=
  o.errors.messages ++ (detailsError.map fun m => ("details", m)).toList

/-- The width of the column of logs. -/
def logWidth (rs : List Record) : Nat := (rs.map fun r => r.log.length).foldl max 0

/-- **The report on a query.** -/
def messagesDocument (s : Session) (o : Outcome) (details : List (Option String))
    (detailsError : Option String) : Document :=
  recordLines s.reference (logWidth o.records) details 0 (o.records.zip o.annotations)
    ++ summaryLine o.records.length s.records.length
    ++ (allErrors o detailsError).flatMap fun e => errorLine e.1 e.2

/-! ## Structured data -/

/-- An object of some members. -/
def object (members : List (String × Json)) : Json := .obj (Keyed.ofList members)

/-- A text that may be missing. -/
def optionalText : Option String → Json
  | some t => .str t
  | none => .null

/-- A time that may be missing. -/
def optionalTime : Option Instant → Json
  | some t => .str (String.ofList t.text)
  | none => .null

/-- A record with its annotation and its details. -/
def recordJson (details : List (Option String)) (i : Nat) (p : Record × Annotation) : Json :=
  object
    [("gindex", .int p.1.index), ("log", .str p.1.log), ("time", optionalTime p.1.time),
     ("label", .str p.2.label), ("color", .str p.2.color), ("ids", .arr (p.2.ids.map .str)),
     ("align", .str p.2.align.name), ("details", optionalText (detailsAt details i))]

/-- **The report on a query** as structured data. -/
def messagesJson (o : Outcome) (details : List (Option String)) (detailsError : Option String) :
    Json :=
  object
    [("start", optionalTime o.start), ("end", optionalTime o.finish),
     ("records", .arr ((o.records.zip o.annotations).mapIdx (recordJson details))),
     ("correlations",
       .obj ((correlate o.annotations).map fun g => (g.1, .arr (g.2.map fun (i : Nat) => .int i)))),
     ("errors", object ((allErrors o detailsError).map fun e => (e.1, .str e.2)))]

end Logbook.Report
