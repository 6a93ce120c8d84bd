import Logbook.Command.Run
import Logbook.Proofs.Report.Plain

/-!
# What a command writes to a file

A report as text is written twice, with and without colors, if it also goes to a file. The file has
what is left of the printed text without its colors, except that on a terminal the tables of a
listing are styled either way.

* `Ended`: a report that ends its last line, so that a command adds nothing to it;
* `Task.document`, `Task.texts`: the report of a task, and the texts that it is made of;
* `Task.json`: the report of a task as structured data, whose last line is ended where it is
  printed;
* `stdout_reply`, `output_reply`: what is printed, and what goes to a file;
* **`strip_reports`**: reports without their colors, and the file next to what is printed.
-/

namespace Logbook

namespace Report

/-! ## Reports that end their last line -/

/-- A report whose last span has no style and ends a line. -/
def Ended (d : Document) : Prop := ∃ e text, d = e ++ [{ text := text ++ ['\n'] }]

namespace Ended

variable {d : Document}

theorem append (h : Ended d) (e : Document) : Ended (e ++ d) := by
  obtain ⟨e', text, rfl⟩ := h
  exact ⟨e ++ e', text, (List.append_assoc _ _ _).symm⟩

theorem flatMap {α : Type} {f : α → Document} (hf : ∀ x, Ended (f x)) (xs : List α) (h : Ended d) :
    Ended (d ++ xs.flatMap f) := by
  induction xs generalizing d with
  | nil => rwa [List.flatMap_nil, List.append_nil]
  | cons x xs ih =>
    rw [List.flatMap_cons, ← List.append_assoc]
    exact ih ((hf x).append d)

theorem getLast?_render (h : Ended d) (colored : Bool) :
    (d.render colored).getLast? = some '\n' := by
  obtain ⟨e, text, rfl⟩ := h
  have hlast : Document.render colored [{ text := text ++ ['\n'] }] = text ++ ['\n'] := by
    rw [Document.render, List.flatMap_singleton, Span.render_unstyled]
  rw [Document.render_append, hlast, ← List.append_assoc, List.getLast?_concat]

end Ended

theorem ended_errorLine (slot message : String) : Ended (errorLine slot message) :=
  ⟨[_, _, _], [], rfl⟩

theorem ended_summaryLine (shown total : Nat) : Ended (summaryLine shown total) := ⟨[_], [], rfl⟩

theorem ended_messagesDocument (s : Session) (o : Outcome) (details : List (Option String))
    (detailsError : Option String) : Ended (messagesDocument s o details detailsError) := by
  have herror (e : String × String) : Ended (errorLine e.1 e.2) := ended_errorLine e.1 e.2
  rw [messagesDocument]
  refine Ended.flatMap herror _ ?_
  exact (ended_summaryLine _ _).append _

theorem ended_remark (text : String) : Ended (remark text) := ⟨[_], [], rfl⟩

theorem ended_tableDocument (outlet : Outlet) (header : List String) (rows : List (List String)) :
    Ended (tableDocument outlet header rows) := ⟨[], _, rfl⟩

theorem ended_membersDocument (d : Dictionary) (outlet : Outlet) :
    Ended (membersDocument d outlet) := by
  rw [membersDocument]
  split
  · exact ended_remark _
  · exact ended_tableDocument _ _ _

theorem ended_suggestionLines (title : String) (l : List Session.Suggestion) :
    Ended (suggestionLines title l) := by
  have htitle : Ended [{ text := ['\n'] },
      { text := title.toList, style := { emphasis := some .bold } }, { text := ['\n'] }] :=
    ⟨[_, _], [], rfl⟩
  rw [suggestionLines, List.map_eq_flatMap]
  exact htitle.flatMap (fun x => ⟨[], _, rfl⟩) l

theorem ended_logsDocument (s : Session) (outlet : Outlet) : Ended (logsDocument s outlet) := by
  rw [logsDocument]
  refine Ended.append ?_ _
  split
  · exact ended_remark _
  · exact (ended_suggestionLines _ _).append _

/-! ## Reports with and without colors -/

/-- **A plain report without its colors**, if it has any, is its text. -/
theorem strip_render {d : Document} (h : Plain d.text) (colored : Bool) :
    strip (d.render colored) = d.text := by
  cases colored with
  | true => exact strip_flatMap surrounds_render h
  | false =>
    have hstrip := strip_plain_append h []
    rwa [List.append_nil, strip, List.append_nil, ← Document.render_false] at hstrip

end Report

namespace Command

open Report

/-! ## The report of a task -/

/-- The expression for details that options ask for. -/
def detailsSource? (s : Session) (o : QueryOptions) : Option String :=
  o.details.map fun d => d.getD s.view.details

/-- The details that options ask for. -/
def detailsOfQuery (s : Session) (o : QueryOptions) : List (Option String) :=
  ((detailsSource? s o).map (detailsOf s (s.query (queryOf s o)).records)).getD []

/-- The error of the details that options ask for. -/
def detailsErrorOfQuery? (s : Session) (o : QueryOptions) : Option String :=
  (detailsSource? s o).bind (detailsError? s (s.query (queryOf s o)).records)

/-- The report of a task. -/
def Task.document (s : Session) (outlet : Outlet) : Task → Document
  | .query o =>
    messagesDocument s (s.query (queryOf s o)) (detailsOfQuery s o) (detailsErrorOfQuery? s o)
  | .schema controls => membersDocument (s.query (controls.apply s.defaultQuery)).dictionary outlet
  | .logs => logsDocument s outlet

/-- The texts that the report of a task is made of. -/
def Task.texts (s : Session) : Task → List String
  | .query o =>
    messageTexts (s.query (queryOf s o)) (detailsOfQuery s o) (detailsErrorOfQuery? s o)
  | .schema controls => memberTexts (s.query (controls.apply s.defaultQuery)).dictionary
  | .logs => s.logs

/-- The report of a task as structured data. -/
def Task.json (s : Session) : Task → Json
  | .query o =>
    messagesJson (s.query (queryOf s o)) (detailsOfQuery s o) (detailsErrorOfQuery? s o)
  | .schema controls => membersJson (s.query (controls.apply s.defaultQuery)).dictionary
  | .logs => logsJson s

/-- Without a table of a terminal a report of plain texts is plain. -/
theorem Task.plain_document {s : Session} {outlet : Outlet} {task : Task}
    (houtlet : outlet = .pipe ∨ ∃ o, task = .query o) (h : PlainTexts (task.texts s)) :
    Plain (task.document s outlet).text := by
  rcases houtlet with rfl | ⟨o, rfl⟩
  · cases task with
    | query o => exact plain_messagesDocument s h
    | schema controls => exact plain_membersDocument h
    | logs => exact plain_logsDocument h
  · exact plain_messagesDocument s h

theorem Task.ended_document (s : Session) (outlet : Outlet) (task : Task) :
    Ended (task.document s outlet) := by
  cases task with
  | query o => exact ended_messagesDocument _ _ _ _
  | schema controls => exact ended_membersDocument _ _
  | logs => exact ended_logsDocument s outlet

theorem text_render (s : Session) (task : Task) (outlet : Outlet) (colored : Bool) :
    (render s task .text outlet colored).text = documentText colored (task.document s outlet) := by
  cases task <;> rfl

theorem json_render (s : Session) (task : Task) (outlet : Outlet) (colored : Bool) :
    (render s task .json outlet colored).text = jsonText (task.json s) := by
  cases task <;> rfl

theorem getLast?_pretty_obj (members : List (String × Json)) :
    (Json.pretty (.obj members)).getLast? = some '\x7d' := by
  cases members with
  | nil => rfl
  | cons p rest =>
    rw [Json.pretty, Json.prettyAt, ← List.cons_append, List.getLast?_concat]
    exact List.cons_ne_nil p rest

theorem Task.endLine_document (s : Session) (task : Task) (outlet : Outlet) (colored : Bool) :
    endLine (documentText colored (task.document s outlet)) =
      documentText colored (task.document s outlet) := by
  have hlast := (task.ended_document s outlet).getLast?_render colored
  rw [endLine, documentText, String.toList_ofList, hlast, if_pos rfl]

/-- A report as structured data does not end its last line. -/
theorem Task.endLine_json (s : Session) (task : Task) :
    endLine (jsonText (task.json s)) = jsonText (task.json s) ++ "\n" := by
  have hobject : ∃ members, task.json s = .obj members := by cases task <;> exact ⟨_, rfl⟩
  obtain ⟨members, hjson⟩ := hobject
  rw [hjson, endLine, jsonText, String.toList_ofList, getLast?_pretty_obj, if_neg (by decide)]

/-! ## The reply -/

variable {r : Request}

theorem stdout_reply (r : Request) (s : Session) (outlet : Outlet) :
    (r.reply s outlet).stdout =
      endLine (render s r.task r.format outlet (r.color.colored outlet)).text := rfl

/-- Structured data goes to a file as it was rendered to be printed, which is without colors. -/
theorem output_reply {path : String} (houtput : r.output = some path) (s : Session)
    (outlet : Outlet) :
    (r.reply s outlet).output = some (path, (render s r.task r.format outlet false).text) := by
  rw [Request.reply, houtput]
  cases hformat : r.format with
  | text => rfl
  | json =>
    have hjson := json_render s r.task outlet
    rw [hjson false, ← hjson (r.color.colored outlet)]
    rfl

/-- **Reports without their colors.** Whatever writes spans so that only sequences stand around
their texts, as reports are written, what is left of a report without these is the report without
colors, if the texts that it is made of are plain; of a listing this holds off a terminal. So it is
with what a command prints: without its colors it is what goes to a file. Structured data has no
colors, and its last line is ended only where it is printed. -/
theorem strip_reports :
    Surrounds (Span.render true) ∧
      (∀ write, Surrounds write →
        (∀ s o details detailsError, PlainTexts (messageTexts o details detailsError) →
          strip ((messagesDocument s o details detailsError).flatMap write) =
            (messagesDocument s o details detailsError).render false) ∧
        (∀ d, PlainTexts (memberTexts d) →
          strip ((membersDocument d .pipe).flatMap write) =
            (membersDocument d .pipe).render false) ∧
        ∀ s, PlainTexts s.logs →
          strip ((logsDocument s .pipe).flatMap write) = (logsDocument s .pipe).render false) ∧
      ∀ (r : Request) (s : Session) (outlet : Outlet) (path : String), r.output = some path →
        (r.format = .text → (outlet = .pipe ∨ ∃ o, r.task = .query o) →
          PlainTexts (r.task.texts s) →
          ∃ kept, (r.reply s outlet).output = some (path, kept) ∧ Plain kept.toList ∧
            kept.toList = strip (r.reply s outlet).stdout.toList) ∧
        (r.format = .json →
          ∃ kept, (r.reply s outlet).output = some (path, kept) ∧
            (r.reply s outlet).stdout = kept ++ "\n") := by
  refine ⟨surrounds_render, fun write hwrite => ⟨?_, ?_, ?_⟩, ?_⟩
  · intro s o details detailsError h
    rw [Document.render_false, strip_flatMap hwrite (plain_messagesDocument s h)]
  · intro d h
    rw [Document.render_false, strip_flatMap hwrite (plain_membersDocument h)]
  · intro s h
    rw [Document.render_false, strip_flatMap hwrite (plain_logsDocument h)]
  · intro r s outlet path houtput
    have hstdout := stdout_reply r s outlet
    have hkept := output_reply houtput s outlet
    refine ⟨fun hformat houtlet h => ?_, fun hformat => ?_⟩
    · have hplain := Task.plain_document houtlet h
      rw [hformat, text_render] at hstdout hkept
      rw [Task.endLine_document, documentText] at hstdout
      rw [documentText, Document.render_false] at hkept
      refine ⟨_, hkept, ?_, ?_⟩
      · rwa [String.toList_ofList]
      · rw [hstdout, String.toList_ofList, String.toList_ofList, strip_render hplain]
    · rw [hformat, json_render] at hstdout hkept
      exact ⟨_, hkept, hstdout.trans (Task.endLine_json s r.task)⟩

theorem strip_reports_one :
    let s := (Session.load {} "a.log" "[10:00:00] one").2
    let r : Request :=
      { task := .query { details := some (some "message") }, files := [], color := .always
        output := some "out.txt" }
    let listing : Request := { r with task := .logs }
    (∃ kept, (r.reply s .wideTerminal).output = some ("out.txt", kept) ∧ Plain kept.toList ∧
      kept.toList = strip (r.reply s .wideTerminal).stdout.toList) ∧
    (∃ kept, (listing.reply s .pipe).output = some ("out.txt", kept) ∧ Plain kept.toList ∧
      kept.toList = strip (listing.reply s .pipe).stdout.toList) ∧
    strip ((logsDocument s .pipe).flatMap (Span.render true)) =
      (logsDocument s .pipe).render false ∧
    ∃ kept, ({ listing with format := .json }.reply s .pipe).output = some ("out.txt", kept) ∧
      ({ listing with format := .json }.reply s .pipe).stdout = kept ++ "\n" :=
  ⟨(strip_reports.2.2 _ _ .wideTerminal "out.txt" rfl).1 rfl (.inr ⟨_, rfl⟩) (by decide +kernel),
    (strip_reports.2.2 _ _ .pipe "out.txt" rfl).1 rfl (.inl rfl) (by decide +kernel),
    (strip_reports.2.1 _ surrounds_render).2.2 _ (by decide +kernel),
    (strip_reports.2.2 _ _ .pipe "out.txt" rfl).2 rfl⟩

/-- On a terminal the header of a listing is bold with colors and without, and so it goes to a file.
And structured data in a file does not end its last line. -/
theorem not_strip_reports :
    let s := (Session.load {} "a.log" "[10:00:00] one").2
    let r : Request := { task := .logs, files := [], output := some "out.txt" }
    PlainTexts s.logs ∧
      strip ((logsDocument s .wideTerminal).render true) ≠
        (logsDocument s .wideTerminal).render false ∧
      (∃ kept, (r.reply s .wideTerminal).output = some ("out.txt", kept) ∧
        kept.toList ≠ strip (r.reply s .wideTerminal).stdout.toList) ∧
      ∃ kept, ({ r with format := .json }.reply s .pipe).output = some ("out.txt", kept) ∧
        kept.toList ≠ strip ({ r with format := .json }.reply s .pipe).stdout.toList := by
  intro s r
  have hlisting : strip ((logsDocument s .wideTerminal).render true) ≠
      (logsDocument s .wideTerminal).render false := by decide +kernel
  have hjson : (logsJson s).pretty ≠ strip ((logsJson s).pretty ++ ['\n']) := by decide +kernel
  refine ⟨by decide +kernel, hlisting, ⟨_, output_reply rfl s _, ?_⟩, ⟨_, output_reply rfl s _, ?_⟩⟩
  · rw [stdout_reply, text_render, text_render, Task.endLine_document, documentText, documentText,
      String.toList_ofList, String.toList_ofList]
    exact hlisting.symm
  · rw [stdout_reply, json_render, json_render, Task.endLine_json, String.toList_append, jsonText,
      String.toList_ofList]
    exact hjson

end Command

end Logbook
