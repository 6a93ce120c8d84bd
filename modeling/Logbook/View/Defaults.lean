import Logbook.Message.Record
import Logbook.View.Align

/-!
# Defaults of a view

* `LogView`: whether the messages of a log are shown, and where;
* `ViewDefaults`: the controls that are used where a query leaves them open;
* `ViewDefaults.logView`: how a log is shown that nothing is said about.
-/

namespace Logbook

/-- How a log is shown. -/
structure LogView where
  visible : Bool := true
  align : Align := .left
  deriving DecidableEq, Repr

/-- The controls of a view. -/
structure ViewDefaults where
  filter : String := ""
  start : String := ""
  finish : String := ""
  text : String := "title || line"
  id : String := "id"
  color : String := "title"
  details : String := "message"
  alignForOtherLogs : Align := .left
  alignForServerLog : Align := .right
  /-- A log with at least so many records starts hidden. -/
  thresholdForVisible : Nat := 2000
  deriving DecidableEq, Repr

/-- How a log of `count` records is shown. -/
def ViewDefaults.logView (v : ViewDefaults) (log : String) (count : Nat) : LogView :=
  { visible := count < v.thresholdForVisible
    align := if isServerLog log then v.alignForServerLog else v.alignForOtherLogs }

end Logbook
