import Logbook.Proofs.Dictionary.Listing
import Logbook.Proofs.Report.Lines
import Logbook.Proofs.Report.Strip
import Logbook.Report.Listings

/-!
# Plain reports

What a report adds to the texts that it is made of has no control sequences in it: these are times,
numbers, spaces, the frames of tables and some words. So plain texts make plain reports.

* `PlainTexts`: texts without control sequences;
* `messageTexts`, **`plain_messagesDocument`**: the report on a query;
* `plain_tableDocument`: a table that is not written on a terminal;
* `memberTexts`, **`plain_membersDocument`**: such a listing of members;
* **`plain_logsDocument`**: such a listing of logs, whose texts are their names.
-/

namespace Logbook.Report

/-! ## Plain texts -/

/-- Texts without control sequences. -/
def PlainTexts (ts : List String) : Prop := ∀ t ∈ ts, Plain t.toList

instance (ts : List String) : Decidable (PlainTexts ts) :=
  inferInstanceAs (Decidable (∀ t ∈ ts, Plain t.toList))

theorem plain_of_space_le {cs : List Char} (h : ∀ c ∈ cs, ' ' ≤ c) : Plain cs :=
  fun hescape => absurd (h _ hescape) (by decide)

theorem plain_decimal (n : Nat) : Plain (Text.decimal n) :=
  plain_of_space_le (Text.writes_decimal n).space_le

theorem plain_replicate {c : Char} (h : c ≠ escape) (n : Nat) : Plain (List.replicate n c) :=
  fun hescape => h (List.eq_of_mem_replicate hescape).symm

theorem plain_flatMap {α : Type} {f : α → List Char} {xs : List α} :
    Plain (xs.flatMap f) ↔ ∀ x ∈ xs, Plain (f x) := by
  simp only [Plain, List.mem_flatMap, not_exists, not_and]

theorem plain_intercalate {between : List Char} {ps : List (List Char)} (hbetween : Plain between)
    (hps : ∀ p ∈ ps, Plain p) : Plain (between.intercalate ps) := by
  intro hescape
  rcases Text.mem_intercalate hescape with h | ⟨p, hp, h⟩
  · exact hbetween h
  · exact hps p hp h

namespace Document

@[simp] theorem text_nil : text [] = [] := rfl

@[simp] theorem text_cons (s : Span) (d : Document) : text (s :: d) = s.text ++ text d := rfl

@[simp] theorem text_append (d e : Document) : text (d ++ e) = text d ++ text e :=
  List.flatMap_append

theorem text_flatMap {α : Type} (f : α → Document) (xs : List α) :
    text (xs.flatMap f) = xs.flatMap fun x => text (f x) :=
  List.flatMap_assoc

end Document

/-! ## The report on a query -/

/-- The texts of the report on a query. -/
def messageTexts (o : Outcome) (details : List (Option String)) (detailsError : Option String) :
    List String :=
  o.records.map Record.log ++ o.annotations.flatMap (fun a => a.label :: a.ids) ++
    details.filterMap id ++ (allErrors o detailsError).map Prod.snd

theorem plain_padRight {width : Nat} {cs : List Char} (h : Plain cs) : Plain (padRight width cs) :=
  plain_append.2 ⟨h, plain_replicate (by decide) _⟩

theorem plain_oneLine {cs : List Char} (h : Plain cs) : Plain (oneLine cs) := by
  have hline : Plain (cs.map fun c => if c = '\n' ∨ c = '\r' then ' ' else c) := by
    intro hescape
    obtain ⟨c, hc, heq⟩ := List.mem_map.1 hescape
    split at heq
    · exact absurd heq (by decide)
    · exact h (heq ▸ hc)
  rw [oneLine]
  split
  · refine plain_append.2 ⟨fun hescape => hline (List.mem_of_mem_take hescape), by decide⟩
  · exact hline

theorem plain_labelSpan {a : Annotation} (h : Plain a.label.toList) : Plain (labelSpan a).text := by
  have hspaces := plain_replicate (c := ' ') (by decide)
  exact plain_append.2 ⟨plain_append.2 ⟨hspaces _, plain_oneLine h⟩, hspaces _⟩

theorem plain_idSpans {ids : List String} (h : PlainTexts ids) :
    Plain (Document.text (idSpans ids)) := by
  have hids : Plain (", ".toList.intercalate (ids.map String.toList)) :=
    plain_intercalate (by decide) (List.forall_mem_map.2 h)
  rw [idSpans]
  split
  · exact plain_nil
  · simp only [Document.text_cons, Document.text_nil, List.append_nil, plain_append]
    exact ⟨⟨by decide, hids⟩, by decide⟩

theorem plain_recordLine (reference : Option Instant) (width : Nat) {p : Row}
    (hlog : Plain p.1.log.toList) (htexts : PlainTexts (p.2.label :: p.2.ids)) :
    Plain (Document.text (recordLine reference width p.1 p.2)) := by
  rw [PlainTexts, List.forall_mem_cons] at htexts
  have htime := plain_of_space_le (space_le_timeText reference p.1)
  have hspace : Plain [' '] := by decide
  have hfeed : Plain ['\n'] := by decide
  simp only [recordLine, Document.text_append, Document.text_cons, Document.text_nil, plain_append]
  exact ⟨⟨⟨plain_padRight htime, hspace, plain_padRight hlog, hspace, plain_labelSpan htexts.1,
    plain_nil⟩, plain_idSpans htexts.2⟩, hfeed, plain_nil⟩

theorem plain_detailLines {text : String} (h : Plain text.toList) :
    Plain (Document.text (detailLines text)) := by
  rw [detailLines, Document.text, plain_flatMap, List.forall_mem_map]
  intro l hl
  have hline : Plain l := fun hescape => h (Text.mem_of_mem_lineRun hl hescape)
  simp only [plain_append]
  exact ⟨⟨by decide, hline⟩, by decide⟩

theorem plain_recordLines (reference : Option Instant) (width : Nat)
    {details : List (Option String)} (hdetails : PlainTexts (details.filterMap id)) {ps : List Row}
    (hps : ∀ p ∈ ps, Plain p.1.log.toList ∧ PlainTexts (p.2.label :: p.2.ids)) (i : Nat) :
    Plain (Document.text (recordLines reference width details i ps)) := by
  have hat (i : Nat) :
      Plain (Document.text (((detailsAt details i).map detailLines).getD [])) := by
    cases hdetail : detailsAt details i with
    | none => exact plain_nil
    | some t =>
      have hmem : some t ∈ details := List.mem_of_getElem? (Option.join_eq_some_iff.1 hdetail)
      exact plain_detailLines (hdetails t (List.mem_filterMap.2 ⟨some t, hmem, rfl⟩))
  induction ps generalizing i with
  | nil => exact plain_nil
  | cons p ps ih =>
    obtain ⟨⟨hlog, htexts⟩, hps⟩ := List.forall_mem_cons.1 hps
    simp only [recordLines, Document.text_append, plain_append]
    exact ⟨⟨plain_recordLine reference width hlog htexts, hat i⟩, ih hps (i + 1)⟩

theorem plain_summaryLine (shown total : Nat) :
    Plain (Document.text (summaryLine shown total)) := by
  simp only [summaryLine, Document.text_cons, Document.text_nil, plain_append]
  exact ⟨⟨⟨⟨plain_decimal shown, by decide⟩, plain_decimal total⟩, by decide⟩, by decide, plain_nil⟩

theorem plain_errorLine {slot message : String} (hslot : Plain slot.toList)
    (hmessage : Plain message.toList) : Plain (Document.text (errorLine slot message)) := by
  simp only [errorLine, Document.text_cons, Document.text_nil, plain_append]
  exact ⟨⟨hslot, by decide⟩, by decide, hmessage, by decide, plain_nil⟩

theorem plain_fst_of_mem_allErrors {o : Outcome} {detailsError : Option String}
    {e : String × String} (h : e ∈ allErrors o detailsError) : Plain e.1.toList := by
  have hslots : ∀ slot ∈ o.errors.slots, Plain slot.1.toList := by
    simp only [QueryErrors.slots, List.forall_mem_cons]
    decide
  rcases List.mem_append.1 h with h | h
  · obtain ⟨slot, hslot, heq⟩ := List.mem_filterMap.1 h
    obtain ⟨m, -, rfl⟩ := Option.map_eq_some_iff.1 heq
    exact hslots slot hslot
  · rw [Option.mem_toList, Option.map_eq_some_iff] at h
    obtain ⟨m, -, rfl⟩ := h
    have hname : Plain "details".toList := by decide
    exact hname

/-- **Plain texts make a plain report on a query.** -/
theorem plain_messagesDocument (s : Session) {o : Outcome} {details : List (Option String)}
    {detailsError : Option String} (h : PlainTexts (messageTexts o details detailsError)) :
    Plain (Document.text (messagesDocument s o details detailsError)) := by
  simp only [messageTexts, PlainTexts, List.forall_mem_append, List.forall_mem_map,
    List.forall_mem_flatMap] at h
  obtain ⟨⟨⟨hlogs, hmarks⟩, hdetails⟩, herrors⟩ := h
  have hrows : ∀ p ∈ rows o, Plain p.1.log.toList ∧ PlainTexts (p.2.label :: p.2.ids) := by
    intro p hp
    obtain ⟨hrecord, hmark⟩ := List.of_mem_zip hp
    exact ⟨hlogs p.1 hrecord, hmarks p.2 hmark⟩
  simp only [messagesDocument, Document.text_append, Document.text_flatMap, plain_append,
    plain_flatMap]
  exact ⟨⟨plain_recordLines s.reference _ hdetails hrows 0, plain_summaryLine _ _⟩,
    fun e he => plain_errorLine (plain_fst_of_mem_allErrors he) (herrors e he)⟩

/-! ## Tables -/

theorem plain_frameText {f : Frame} (h : Plain [f.left, f.line, f.crossing, f.right])
    (widths : List Nat) : Plain (f.text widths) := by
  simp only [plain_cons, plain_nil, and_true] at h
  obtain ⟨hleft, hline, hcrossing, hright⟩ := h
  simp only [Frame.text, plain_cons, plain_append, plain_nil, and_true]
  refine ⟨hleft, plain_intercalate ?_ (List.forall_mem_map.2 fun w _ => plain_replicate hline _),
    hright⟩
  exact plain_cons.2 ⟨hcrossing, plain_nil⟩

theorem plain_fill {width : Nat} {cs : List Char} (h : Plain cs) : Plain (fill width cs) :=
  plain_append.2 ⟨h, plain_replicate (by decide) _⟩

theorem plain_cellSpan (width i : Nat) {x : Cell} (h : ∀ l ∈ x, Plain l) :
    Plain ((cellSpan {} width i x).render true) := by
  have hline : Plain (x.getD i []) := by
    rw [List.getD_eq_getElem?_getD]
    cases hget : x[i]? with
    | none => exact plain_nil
    | some l => exact h l (List.mem_of_getElem? hget)
  rw [cellSpan, Span.render_unstyled, plain_cons, plain_append]
  exact ⟨by decide, plain_fill hline, by decide⟩

theorem plain_rowLine (widths : List Nat) {row : List Cell} (h : ∀ c ∈ row, ∀ l ∈ c, Plain l)
    (i : Nat) : Plain (rowLine {} widths row i) := by
  have hcells : ∀ l ∈ List.zipWith (fun w c => (cellSpan {} w i c).render true) widths row,
      Plain l := by
    rw [← List.map_uncurry_zip_eq_zipWith, List.forall_mem_map]
    exact fun p hp => plain_cellSpan p.1 i (h p.2 (List.of_mem_zip hp).2)
  simp only [rowLine, plain_cons, plain_append, plain_nil, and_true]
  exact ⟨by decide, plain_intercalate (by decide) hcells, by decide⟩

theorem plain_tableLines {header : List Cell} {cells : List (List Cell)}
    (hheader : ∀ c ∈ header, ∀ l ∈ c, Plain l)
    (hcells : ∀ row ∈ cells, ∀ c ∈ row, ∀ l ∈ c, Plain l) :
    ∀ l ∈ tableLines {} header cells, Plain l := by
  have hrow (widths : List Nat) {row : List Cell} (h : ∀ c ∈ row, ∀ l ∈ c, Plain l) :
      ∀ l ∈ rowLines {} widths row, Plain l :=
    List.forall_mem_map.2 fun i _ => plain_rowLine widths h i
  simp only [tableLines, List.forall_mem_append, List.forall_mem_cons]
  refine ⟨⟨⟨plain_frameText (by decide) _, hrow _ hheader⟩, plain_frameText (by decide) _, ?_⟩,
    plain_frameText (by decide) _, List.forall_mem_nil _⟩
  intro l hl
  rcases Text.mem_intercalate hl with hl | ⟨lines, hlines, hl⟩
  · rw [List.mem_singleton.1 hl]
    exact plain_frameText (by decide) _
  · obtain ⟨row, hmem, rfl⟩ := List.mem_map.1 hlines
    exact hrow _ (hcells row hmem) l hl

theorem plain_cell {t : String} (h : Plain t.toList) : ∀ l ∈ Cell.ofText t, Plain l :=
  fun _ hl hescape => h (Text.mem_of_mem_pieces hl hescape)

/-- Off a terminal a table of plain texts is plain. -/
theorem plain_tableDocument {header : List String} {rows : List (List String)}
    (hheader : PlainTexts header) (hrows : ∀ row ∈ rows, PlainTexts row) :
    Plain (Document.text (tableDocument .pipe header rows)) := by
  have htable : Plain (tableText {} header rows) := by
    refine plain_intercalate (by decide) (plain_tableLines ?_ ?_)
    · exact List.forall_mem_map.2 fun t ht => plain_cell (hheader t ht)
    · exact List.forall_mem_map.2 fun row hrow =>
        List.forall_mem_map.2 fun t ht => plain_cell (hrows row hrow t ht)
  simp only [tableDocument, Document.text_cons, Document.text_nil, List.append_nil, plain_append]
  exact ⟨htable, by decide⟩

theorem plain_remark {text : String} (h : Plain text.toList) :
    Plain (Document.text (remark text)) := by
  simp only [remark, Document.text_cons, Document.text_nil, plain_append]
  exact ⟨h, by decide, plain_nil⟩

/-! ## Listings -/

/-- The texts of a listing of members. -/
def memberTexts (d : Dictionary) : List String := d.listed.flatMap fun x => x.2.hint :: x.1

theorem plain_writtenFrom {path : String} (hpath : Plain path.toList) {names : List String}
    (hnames : PlainTexts names) : Plain (writtenFrom path names).toList := by
  induction names generalizing path with
  | nil => exact hpath
  | cons name names ih =>
    obtain ⟨hname, hnames⟩ := List.forall_mem_cons.1 hnames
    refine ih ?_ hnames
    unfold memberPath
    split
    · rw [String.toList_append, plain_append]
      exact ⟨hpath, by decide⟩
    · split
      · exact hname
      · simp only [String.toList_append, plain_append]
        exact ⟨⟨hpath, by decide⟩, hname⟩

/-- **Plain texts make a plain listing of members** off a terminal. -/
theorem plain_membersDocument {d : Dictionary} (h : PlainTexts (memberTexts d)) :
    Plain (Document.text (membersDocument d .pipe)) := by
  rw [membersDocument]
  split
  · exact plain_remark (by decide)
  · refine plain_tableDocument (by decide) ?_
    rw [flatten, Dictionary.entryRows_eq, List.map_map, List.forall_mem_map]
    intro x hx
    have htexts : PlainTexts (x.2.hint :: x.1) := fun t ht => h t (List.mem_flatMap.2 ⟨x, hx, ht⟩)
    rw [PlainTexts, List.forall_mem_cons] at htexts
    rw [PlainTexts, Function.comp_apply, List.forall_mem_cons, List.forall_mem_singleton]
    exact ⟨plain_writtenFrom (by decide) htexts.2, htexts.1⟩

theorem plain_logRow {s : Session} {p : String × Nat} (h : Plain p.1.toList) :
    PlainTexts (logRow s p) := by
  have hcount : (toString p.2).toList = Text.decimal p.2 := String.toList_ofList
  simp only [PlainTexts, logRow, List.forall_mem_cons]
  refine ⟨h, hcount ▸ plain_decimal p.2, ?_, ?_, List.forall_mem_nil _⟩
  · split <;> decide
  · cases (s.defaultLogView p.1).align <;> decide

theorem plain_suggestionLines {title : String} (htitle : Plain title.toList)
    {l : List Session.Suggestion} (h : ∀ x ∈ l, Plain x.label.toList) :
    Plain (Document.text (suggestionLines title l)) := by
  have hlines : Plain (Document.text
      (l.map fun x => { text := "  ".toList ++ x.label.toList ++ ['\n'] })) := by
    rw [Document.text, plain_flatMap, List.forall_mem_map]
    intro x hx
    simp only [plain_append]
    exact ⟨⟨by decide, h x hx⟩, by decide⟩
  simp only [suggestionLines, Document.text_append, Document.text_cons, Document.text_nil,
    plain_append]
  exact ⟨⟨by decide, htitle, by decide, plain_nil⟩, hlines⟩

theorem plain_control (s : Session) (t : Instant) : Plain (s.control t).toList :=
  plain_of_space_le (Control.space_le_format t s.reference)

theorem plain_logSuggestions {s : Session} (h : PlainTexts s.logs)
    (choose : List Instant → Option Instant) :
    ∀ x ∈ s.logSuggestions choose, Plain x.label.toList := by
  intro x hx
  obtain ⟨log, hlog, heq⟩ := List.mem_filterMap.1 hx
  obtain ⟨t, -, rfl⟩ := Option.map_eq_some_iff.1 heq
  simp only [Session.logSuggestion, String.toList_append, plain_append]
  exact ⟨⟨plain_control s t, by decide⟩, h log hlog⟩

theorem plain_suggestions {s : Session} (h : PlainTexts s.logs) :
    (∀ x ∈ s.suggestions.start, Plain x.label.toList) ∧
      ∀ x ∈ s.suggestions.finish, Plain x.label.toList := by
  unfold Session.suggestions
  split
  · simp only [List.forall_mem_cons]
    exact ⟨⟨plain_control s _, plain_logSuggestions h _⟩,
      plain_control s _, by decide, by decide, plain_logSuggestions h _⟩
  · simp

/-- **Plain names make a plain listing of logs** off a terminal. -/
theorem plain_logsDocument {s : Session} (h : PlainTexts s.logs) :
    Plain (Document.text (logsDocument s .pipe)) := by
  have hrows : ∀ row ∈ s.logCounts.map (logRow s), PlainTexts row := by
    rw [List.forall_mem_map, Session.logCounts, List.forall_mem_map]
    exact fun log hlog => plain_logRow (h log hlog)
  have hsuggestions := plain_suggestions h
  rw [logsDocument, Document.text_append, plain_append]
  refine ⟨plain_tableDocument (by decide) hrows, ?_⟩
  split
  · exact plain_remark (by decide)
  · rw [Document.text_append, plain_append]
    exact ⟨plain_suggestionLines (by decide) hsuggestions.1,
      plain_suggestionLines (by decide) hsuggestions.2⟩

end Logbook.Report
