import Logbook.Report.Messages
import Logbook.Report.Table

/-!
# Listings

* **`membersDocument`**, **`membersJson`**: the members of the records that a query selects;
* **`logsDocument`**, **`logsJson`**: the logs of a session, and times to choose from.
-/

namespace Logbook.Report

/-- A remark in place of a listing. -/
def remark (text : String) : Document :=
  [{ text := text.toList, style := { ink := some .yellow } }, { text := ['\n'] }]

/-- A table on lines of its own. -/
def tableDocument (outlet : Outlet) (header : List String) (rows : List (List String)) :
    Document := [{ text := outlet.tables header rows ++ ['\n'] }]

/-- **The members of records with their hints.** -/
def membersDocument (d : Dictionary) (outlet : Outlet := .pipe) : Document :=
  if d.isEmpty then remark "No messages selected"
  else tableDocument outlet ["Member", "Hint"] ((flatten d).map fun row => [row.1, row.2])

/-- **The members of records** as structured data. -/
def membersJson (d : Dictionary) : Json := dictionaryToJson d

/-- The row of a log. -/
def logRow (s : Session) (p : String × Nat) : List String :=
  let view := s.defaultLogView p.1
  [p.1, toString p.2, if view.visible then "yes" else "no", view.align.name]

/-- Times to choose from, below a title. -/
def suggestionLines (title : String) (l : List Session.Suggestion) : Document :=
  [{ text := ['\n'] }, { text := title.toList, style := { emphasis := some .bold } },
   { text := ['\n'] }]
  ++ l.map fun x => { text := "  ".toList ++ x.label.toList ++ ['\n'] }

/-- **The logs of a session.** -/
def logsDocument (s : Session) (outlet : Outlet := .pipe) : Document :=
  tableDocument outlet ["Log", "Messages", "Shown", "Align"] (s.logCounts.map (logRow s))
    ++ if s.suggestions.start.isEmpty then remark "No message carries a time"
      else suggestionLines "Start" s.suggestions.start ++ suggestionLines "End" s.suggestions.finish

/-- A log as structured data. -/
def logJson (s : Session) (p : String × Nat) : Json :=
  let view := s.defaultLogView p.1
  object [("log", .str p.1), ("messages", .int p.2), ("visible", .bool view.visible),
    ("align", .str view.align.name)]

/-- A suggestion as structured data. -/
def suggestionJson (x : Session.Suggestion) : Json :=
  object [("value", .str x.value), ("label", .str x.label)]

/-- **The logs of a session** as structured data. -/
def logsJson (s : Session) : Json :=
  object
    [("logs", .arr (s.logCounts.map (logJson s))),
     ("time_suggestions",
       object [("start", .arr (s.suggestions.start.map suggestionJson)),
         ("end", .arr (s.suggestions.finish.map suggestionJson))])]

end Logbook.Report
