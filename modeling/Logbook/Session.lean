import Logbook.Message.Log
import Logbook.Query.Basic
import Logbook.Time.Anchor

/-!
# Sessions

A session holds the records of all logs read so far, in the order of reading. Reading more adds to
the end and may move undated records onto the calendar of dated ones.

* `reconcile`: undated records on the calendar of the earliest dated one;
* `Session.ingest`, `Session.load`: reading a combined stream, or the log in a file;
* `Session.logCounts`, `Session.defaultLogView`, `Session.defaultQuery`: what there is to ask for;
* **`Session.query`**: the answer to a query;
* `Session.details`: an expression for one record;
* `Session.suggestions`: times to choose from.
-/

namespace Logbook

/-- **Moves undated records** onto the calendar of the earliest dated one, if there is one. -/
def reconcile (rs : List Record) : List Record :=
  match dateOffset? (Record.times rs) with
  | some offset => rs.map fun r => { r with time := r.time.map (·.anchor offset) }
  | none => rs

/-- The records with numbers from `n` on. -/
def numberFrom (n : Nat) : List Record → List Record
  | [] => []
  | r :: rs => { r with index := n } :: numberFrom (n + 1) rs

/-- The records read so far, and how they are shown. -/
structure Session where
  records : List Record := []
  view : ViewDefaults := {}

namespace Session

/-! ## Reading -/

/-- Adds records; also tells how many there are. -/
def append (s : Session) (rs : List Record) : Nat × Session :=
  (rs.length, { s with records := reconcile (s.records ++ numberFrom s.records.length rs) })

/-- Adds the logs of a combined stream; also tells the number of their records. -/
def ingest (s : Session) (text : String) : Nat × Session :=
  s.append ((splitLogs text).flatMap fun segment => parseLines segment.name segment.lines)

/-- Adds the log in a file; also tells the number of its records. -/
def load (s : Session) (path text : String) : Nat × Session :=
  s.append (parseLog (logName path) text)

/-! ## Logs -/

/-- The logs in the order in which they first come up. -/
def logs (s : Session) : List String := dedup [] (s.records.map Record.log)

/-- The records of a log. -/
def recordsOf (s : Session) (log : String) : List Record := s.records.filter fun r => r.log == log

/-- The logs with the numbers of their records. -/
def logCounts (s : Session) : List (String × Nat) :=
  s.logs.map fun log => (log, (s.recordsOf log).length)

/-- How a log is shown that no query says anything about. -/
def defaultLogView (s : Session) (log : String) : LogView :=
  s.view.logView log (s.recordsOf log).length

/-- The query with the controls of the view. -/
def defaultQuery (s : Session) : Query :=
  { filter := s.view.filter
    start := s.view.start
    finish := s.view.finish
    text := s.view.text
    id := s.view.id
    color := s.view.color }

/-! ## Asking -/

/-- The reference date of the records. -/
def reference (s : Session) : Option Instant := referenceDate (Record.times s.records)

/-- How each log is shown. -/
def logViews (s : Session) (q : Query) : List (String × LogView) :=
  s.logs.map fun log => (log, (Keyed.find? log q.logViews).getD (s.defaultLogView log))

/-- What a query asks of a record: that its log is shown, and that the filter holds. -/
def queryTest (views : List (String × LogView)) (filter : Compiled) (r : Record) :
    Except ExprError Bool :=
  if ((views.lookup r.log).map LogView.visible).getD false then
    if filter.isBlank then .ok true else filter.test r
  else .ok false

/-- **The answer to a query.** -/
def query (s : Session) (q : Query) : Outcome :=
  let views := s.logViews q
  let bounds := Control.bounds q.start q.finish s.reference
  let selection := select s.records (queryTest views (compile q.filter))
    ⟨Control.bound bounds.1, Control.bound bounds.2⟩
  let annotated := annotate selection.records ⟨compile q.text, compile q.color, compile q.id⟩
    fun log => ((views.lookup log).map LogView.align).getD s.view.alignForOtherLogs
  { records := selection.records
    annotations := annotated.1
    dictionary := dictionary selection.records
    start := Control.bound bounds.1
    finish := Control.bound bounds.2
    errors :=
      { filter := selection.firstError
        start := errorOf? bounds.1
        finish := errorOf? bounds.2
        text := annotated.2.text
        color := annotated.2.color
        id := annotated.2.id } }

/-- The text of an expression for the record at an index; none where there is no such record or its
value is `undefined` or `null`. -/
def details (s : Session) (index : Nat) (source : String) : Except ExprError (Option String) :=
  match s.records.find? fun r => r.index == index with
  | none => .ok none
  | some r => ((compile source).eval r).map fun v => if v.isNullish then none else some v.display

/-! ## Times to choose from -/

/-- A text for a time control, and what is shown for it. -/
structure Suggestion where
  value : String
  label : String
  deriving DecidableEq, Repr

/-- A suggestion shown as it is. -/
def Suggestion.plain (value : String) : Suggestion := ⟨value, value⟩

/-- Suggestions for the two ends of a window. -/
structure Suggestions where
  start : List Suggestion := []
  finish : List Suggestion := []

/-- The control for a time. -/
def control (s : Session) (t : Instant) : String := Control.format t s.reference

/-- The suggestion for a time of a log. -/
def logSuggestion (s : Session) (log : String) (t : Instant) : Suggestion :=
  ⟨s.control t, s.control t ++ " - " ++ log⟩

/-- The suggestion for one of the times of each log. -/
def logSuggestions (s : Session) (choose : List Instant → Option Instant) : List Suggestion :=
  s.logs.filterMap fun log =>
    (choose (Record.times (s.recordsOf log))).map (s.logSuggestion log)

/-- **Suggestions**: the earliest and the latest time of all records, and those of each log; none
where no record has a time. -/
def suggestions (s : Session) : Suggestions :=
  match earliest? (Record.times s.records), latest? (Record.times s.records) with
  | some first, some last =>
    { start := .plain (s.control first) :: s.logSuggestions earliest?
      finish := .plain (s.control last) :: .plain "+5s" :: .plain "+10 minutes"
        :: s.logSuggestions latest? }
  | _, _ => {}

end Session

end Logbook
