import Logbook.Command.Arguments
import Logbook.Report.Listings
import Logbook.View.Profile

/-!
# Running a command

A command reads its files into a session, writes a report, and perhaps writes it to a file as well.
Reading and writing of files is left to the caller.

* `FileError`, `Failure`: what can go wrong, and how it is put into words;
* `Sources`, `readSession`: the texts that a command reads, and the session of them;
* `queryOf`: the query that the options of a command ask for;
* **`Request.run`**: the reply to a request.
-/

namespace Logbook.Command

/-- Why a file cannot be read or written. -/
inductive FileError where
  | notFound
  | isDirectory
  | notDirectory
  | permissionDenied
  | notText
  | other (text : String)
  deriving DecidableEq, Repr

/-- A file error in words. -/
def FileError.message : FileError → String
  | .notFound => "No such file or directory (os error 2)"
  | .isDirectory => "Is a directory (os error 21)"
  | .notDirectory => "Not a directory (os error 20)"
  | .permissionDenied => "Permission denied (os error 13)"
  | .notText => "stream did not contain valid UTF-8"
  | .other text => text

/-- Why a command fails. -/
inductive Failure where
  | readConfig (path : String) (e : FileError)
  | parseConfig (path : String)
  | readInput (e : FileError)
  | readLog (path : String) (e : FileError)
  | writeOutput (path : String) (e : FileError)
  deriving DecidableEq, Repr

/-- A failure in words; the cause of a profile that cannot be read is named twice. -/
def Failure.message : Failure → String
  | .readConfig path e =>
    "Failed to load config: Failed to read config file '" ++ path ++ "': " ++ e.message ++ ": "
      ++ e.message
  | .parseConfig path => "Failed to load config: Failed to parse config file '" ++ path ++ "'"
  | .readInput e => "Failed to read stdin: " ++ e.message
  | .readLog path e => "Failed to read log file '" ++ path ++ "': " ++ e.message
  | .writeOutput path e => "Failed to write output file '" ++ path ++ "': " ++ e.message

/-! ## Reading -/

/-- The texts that a command can read. -/
structure Sources where
  /-- The text at a path. -/
  file : String → Except FileError String
  /-- The text that is piped in. -/
  input : Except FileError String

/-- The profile of a command. -/
def readProfile (sources : Sources) : Option String → Except Failure Profile
  | none => .ok {}
  | some path =>
    match sources.file path with
    | .error e => .error (.readConfig path e)
    | .ok text =>
      match Profile.parse? text with
      | some p => .ok p
      | none => .error (.parseConfig path)

/-- The path that stands for the text that is piped in. -/
def inputPath : String := "-"

/-- Adds the text of a file, as a combined stream if it is one. -/
def addFile (s : Session) (path text : String) : Session :=
  if 1 < (splitLogs text).length then (s.ingest text).2 else (s.load path text).2

/-- Adds the texts of files. What is piped in can be read once; after that it is empty. -/
def addFiles (sources : Sources) (s : Session) (inputRead : Bool) :
    List String → Except Failure Session
  | [] => .ok s
  | path :: rest =>
    if path = inputPath then
      match if inputRead then .ok "" else sources.input with
      | .ok text => addFiles sources (s.ingest text).2 true rest
      | .error e => .error (.readInput e)
    else
      match sources.file path with
      | .ok text => addFiles sources (addFile s path text) inputRead rest
      | .error e => .error (.readLog path e)

/-- **The session of the files of a request.** -/
def readSession (sources : Sources) (view : ViewDefaults) (files : List String) :
    Except Failure Session := addFiles sources { view } false files

/-! ## Queries -/

/-- A query with some controls of its own. -/
def Controls.apply (c : Controls) (q : Query) : Query :=
  { q with
    filter := c.filter.getD q.filter
    start := c.start.getD q.start
    finish := c.finish.getD q.finish }

/-- Changes how a log is shown, starting from its default. -/
def changeLogView (s : Session) (change : LogView → LogView) (views : Keyed LogView)
    (log : String) : Keyed LogView := Keyed.alter log (s.defaultLogView log) change views

/-- How logs are shown that the options name: hiding a log wins over showing it. -/
def logViewsOf (s : Session) (o : QueryOptions) : Keyed LogView :=
  let views := o.shown.foldl (changeLogView s fun v => { v with visible := true }) []
  let views := o.hidden.foldl (changeLogView s fun v => { v with visible := false }) views
  o.align.foldl (fun views p => changeLogView s (fun v => { v with align := p.2 }) views p.1) views

/-- **The query that options ask for.** -/
def queryOf (s : Session) (o : QueryOptions) : Query :=
  let q := o.controls.apply s.defaultQuery
  { q with
    text := o.text.getD q.text
    id := o.id.getD q.id
    color := o.color.getD q.color
    logViews := logViewsOf s o }

/-- The details of some records. -/
def detailsOf (s : Session) (rs : List Record) (source : String) : List (Option String) :=
  rs.map fun r =>
    match s.details r.index source with
    | .ok t => t
    | .error _ => none

/-- The first error of the details of some records. -/
def detailsError? (s : Session) (rs : List Record) (source : String) : Option String :=
  (firstError? (fun r => s.details r.index source) rs).map ExprError.message

/-! ## Replies -/

/-- A report in one of its forms, and the remarks that go with it. -/
structure Rendering where
  text : String
  warnings : List String := []

/-- A report as text. -/
def documentText (colored : Bool) (d : Report.Document) : String :=
  String.ofList (d.render colored)

/-- A report as structured data. -/
def jsonText (j : Json) : String := String.ofList j.pretty

/-- The report on a query. -/
def renderQuery (s : Session) (o : QueryOptions) (format : Format) (colored : Bool) : String :=
  let outcome := s.query (queryOf s o)
  let source := o.details.map fun d => d.getD s.view.details
  let details := (source.map (detailsOf s outcome.records)).getD []
  let error := source.bind (detailsError? s outcome.records)
  match format with
  | .text => documentText colored (Report.messagesDocument s outcome details error)
  | .json => jsonText (Report.messagesJson outcome details error)

/-- The report of a task. The errors of the controls of a schema are remarks. -/
def render (s : Session) (task : Task) (format : Format) (outlet : Report.Outlet)
    (colored : Bool) : Rendering :=
  match task with
  | .query o => { text := renderQuery s o format colored }
  | .schema controls =>
    let outcome := s.query (controls.apply s.defaultQuery)
    { text := match format with
        | .text => documentText colored (Report.membersDocument outcome.dictionary outlet)
        | .json => jsonText (Report.membersJson outcome.dictionary)
      warnings := outcome.errors.messages.map fun e => e.1 ++ ": " ++ e.2 }
  | .logs =>
    { text := match format with
        | .text => documentText colored (Report.logsDocument s outlet)
        | .json => jsonText (Report.logsJson s) }

/-- The line of a remark. -/
def warningLine (text : String) : String := "[WARN log_sea] " ++ text ++ "\n"

/-- The line of a failure. -/
def Failure.line (f : Failure) : String := "Error: " ++ f.message ++ "\n"

/-- What a command writes, and how it ends. -/
structure Reply where
  stdout : String := ""
  stderr : String := ""
  code : Nat := 0
  /-- A path, and what is to be written there. -/
  output : Option (String × String) := none

/-- The reply to a request that fails. -/
def Reply.ofFailure (f : Failure) : Reply := { stderr := f.line, code := 1 }

/-- A reply after its output could not be written. -/
def Reply.failOutput (r : Reply) (path : String) (e : FileError) : Reply :=
  { r with stderr := r.stderr ++ (Failure.writeOutput path e).line, code := 1 }

/-- A text with a line break at its end. -/
def endLine (s : String) : String := if s.toList.getLast? = some '\n' then s else s ++ "\n"

/-- Whether a report is printed with colors. -/
def ColorMode.colored (m : ColorMode) (outlet : Report.Outlet) : Bool :=
  match m with
  | .auto => outlet.isTerminal
  | .always => true
  | .never => false

/-- The reply to a request on a session. A text that also goes to a file is rendered once more,
without colors, with its tables as they are printed. -/
def Request.reply (r : Request) (s : Session) (outlet : Report.Outlet) : Reply :=
  let shown := render s r.task r.format outlet (r.color.colored outlet)
  let kept := match r.output, r.format with
    | some path, .text => some (path, render s r.task .text outlet false)
    | some path, .json => some (path, { text := shown.text })
    | none, _ => none
  let warnings := shown.warnings ++ (kept.map fun k => k.2.warnings).getD []
  { stdout := endLine shown.text
    stderr := if r.quiet then "" else String.join (warnings.map warningLine)
    output := kept.map fun k => (k.1, k.2.text) }

/-- **The reply to a request.** -/
def Request.run (r : Request) (sources : Sources) (outlet : Report.Outlet) : Reply :=
  match readProfile sources r.config with
  | .error f => .ofFailure f
  | .ok profile =>
    match readSession sources profile.view r.files with
    | .error f => .ofFailure f
    | .ok s => r.reply s outlet

end Logbook.Command
