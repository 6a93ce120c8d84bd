import Logbook.Proofs.Text.Pieces
import Logbook.Proofs.Time.Controls
import Logbook.Report.Messages

/-!
# The lines of the report on a query

Without details and colors, the report begins with a line for each record. A label is flattened on
its way there; the name of a log and an id are not, and each of their line feeds ends the line.

* `head`, `lineText`: what stands ahead of the number of messages, and the line of a record;
* `named`: the name of the log and the ids of a record;
* `count_lineText`: the line of a record has the line feeds of these, and no others;
* **`lines_messagesDocument`**: the report has a single line for each record just if there are none;
* **`not_lines_messagesDocument`**: an id of two lines breaks the line of its record.
-/

namespace Logbook.Report

/-- A record of an outcome with its annotation. -/
abbrev Row := Record × Annotation

/-- The records of an outcome with their annotations. -/
def rows (o : Outcome) : List Row := o.records.zip o.annotations

/-- What stands ahead of the number of messages in a report without details and colors. -/
def head (s : Session) (o : Outcome) : List Char :=
  Document.text (recordLines s.reference (logWidth o.records) [] 0 (rows o))

/-- The line of a record without its end. -/
def lineText (reference : Option Instant) (width : Nat) (p : Row) : List Char :=
  padRight timeWidth (timeText reference p.1) ++ [' '] ++ padRight width p.1.log.toList ++ [' '] ++
    (labelSpan p.2).text ++ Document.text (idSpans p.2.ids)

/-- The name of the log and the ids of a record. -/
def named (p : Row) : List Char := p.1.log.toList ++ p.2.ids.flatMap String.toList

/-! ## Texts without line feeds -/

theorem count_replicate_space (n : Nat) : (List.replicate n ' ').count '\n' = 0 :=
  List.count_eq_zero_of_not_mem fun h => absurd (List.eq_of_mem_replicate h) (by decide)

theorem count_padRight (width : Nat) (cs : List Char) :
    (padRight width cs).count '\n' = cs.count '\n' := by
  rw [padRight, List.count_append, count_replicate_space, Nat.add_zero]

theorem count_aligned_oneLine (a : Align) (cs : List Char) :
    (aligned a (oneLine cs)).count '\n' = 0 := by
  have hflat : '\n' ∉ cs.map fun c => if c = '\n' ∨ c = '\r' then ' ' else c := by
    intro h
    obtain ⟨c, -, hc⟩ := List.mem_map.1 h
    split at hc
    · cases hc
    · next hne => exact hne (.inl hc)
  have hline : (oneLine cs).count '\n' = 0 := by
    rw [oneLine]
    refine List.count_eq_zero_of_not_mem ?_
    split
    · intro h
      rcases List.mem_append.1 h with h | h
      · exact hflat (List.mem_of_mem_take h)
      · cases List.mem_singleton.1 h
    · exact hflat
  simp only [aligned, List.count_append, count_replicate_space, hline]

theorem space_le_timeText (reference : Option Instant) (r : Record) :
    ∀ c ∈ timeText reference r, ' ' ≤ c := by
  unfold timeText
  split
  · exact Control.space_le_format _ _
  · exact fun _ h => absurd h List.not_mem_nil

theorem count_timeText (reference : Option Instant) (r : Record) :
    (timeText reference r).count '\n' = 0 :=
  List.count_eq_zero_of_not_mem fun h => absurd (space_le_timeText reference r _ h) (by decide)

theorem count_intercalate {sep : List Char} (h : sep.count '\n' = 0) (pieces : List (List Char)) :
    (sep.intercalate pieces).count '\n' = pieces.flatten.count '\n' := by
  induction pieces with
  | nil => rfl
  | cons p pieces ih =>
    cases pieces with
    | nil => simp
    | cons q pieces =>
      rw [List.intercalate_cons_cons, List.count_append, List.count_append, h, Nat.add_zero, ih,
        ← List.count_append, ← List.flatten_cons]

/-! ## Lines -/

theorem count_idSpans (ids : List String) :
    (Document.text (idSpans ids)).count '\n' = (ids.flatMap String.toList).count '\n' := by
  have hcomma : (", ".toList).count '\n' = 0 := by decide
  cases ids with
  | nil => rfl
  | cons id ids =>
    have htext : Document.text (idSpans (id :: ids)) =
        " [".toList ++ ", ".toList.intercalate ((id :: ids).map String.toList) ++ [']'] := by
      simp [Document.text, idSpans]
    have hopen : (" [".toList).count '\n' = 0 := by decide
    have hclose : [']'].count '\n' = 0 := by decide
    rw [htext, List.count_append, List.count_append, hopen, hclose, count_intercalate hcomma,
      ← List.flatMap_def, Nat.zero_add, Nat.add_zero]

/-- **The line of a record** has the line feeds of its log's name and of its ids, and no others. -/
theorem count_lineText (reference : Option Instant) (width : Nat) (p : Row) :
    (lineText reference width p).count '\n' = (named p).count '\n' := by
  have hspace : [' '].count '\n' = 0 := by decide
  have hlabel : (labelSpan p.2).text.count '\n' = 0 := count_aligned_oneLine _ _
  simp only [lineText, named, List.count_append, count_padRight, count_timeText, hspace, hlabel,
    count_idSpans, Nat.zero_add, Nat.add_zero]

theorem text_recordLines (reference : Option Instant) (width i : Nat) (ps : List Row) :
    Document.text (recordLines reference width [] i ps) =
      ps.flatMap fun p => lineText reference width p ++ ['\n'] := by
  induction ps generalizing i with
  | nil => rfl
  | cons p ps ih =>
    have hdetails : ((detailsAt [] i).map detailLines).getD [] = [] := rfl
    rw [recordLines, hdetails, List.append_nil]
    simp only [Document.text, List.flatMap_append] at ih ⊢
    rw [ih, List.flatMap_cons]
    congr 1
    simp [recordLine, lineText, Document.text]

/-- Texts with a line feed behind each: the feeds behind them, and those in them. -/
theorem count_flatMap_feed {α : Type} {f g : α → List Char}
    (h : ∀ x, (f x).count '\n' = (g x).count '\n') (xs : List α) :
    (xs.flatMap fun x => f x ++ ['\n']).count '\n' = xs.length + (xs.flatMap g).count '\n' := by
  induction xs with
  | nil => rfl
  | cons x xs ih =>
    have hfeed : ['\n'].count '\n' = 1 := rfl
    rw [List.flatMap_cons, List.count_append, List.count_append, ih, hfeed, h, List.length_cons,
      List.flatMap_cons, List.count_append]
    omega

/-- **Each text is a line** just if it has no line feed in it. -/
theorem pieces_flatMap_feed_iff {α : Type} (f : α → List Char) (xs : List α) :
    Text.pieces '\n' (xs.flatMap fun x => f x ++ ['\n']) = xs.map f ++ [[]] ↔
      ∀ x ∈ xs, '\n' ∉ f x := by
  constructor
  · intro h x hx
    have hmem : f x ∈ xs.map f ++ [[]] := List.mem_append_left _ (List.mem_map_of_mem hx)
    exact Text.not_mem_of_mem_pieces (h ▸ hmem)
  · intro h
    induction xs with
    | nil => rfl
    | cons x xs ih =>
      obtain ⟨hx, hxs⟩ := List.forall_mem_cons.1 h
      rw [List.flatMap_cons, List.append_assoc, List.singleton_append, Text.pieces_append_sep,
        Text.pieces_of_not_mem hx, ih hxs]
      rfl

/-! ## The report -/

/-- **What stands ahead of the number of messages**: one line for each record, in order, and one
more for each line feed in the name of its log or in an id; so a single line for each just if there
are no such line feeds, whatever the labels are. -/
structure HeadLines (s : Session) (o : Outcome) : Prop where
  lines : head s o =
    (rows o).flatMap fun p => lineText s.reference (logWidth o.records) p ++ ['\n']
  count : (head s o).count '\n' = (rows o).length + ((rows o).flatMap named).count '\n'
  single_iff : Text.pieces '\n' (head s o) =
      (rows o).map (lineText s.reference (logWidth o.records)) ++ [[]] ↔
    ∀ p ∈ rows o, '\n' ∉ named p

theorem headLines (s : Session) (o : Outcome) : HeadLines s o := by
  have hlines := text_recordLines s.reference (logWidth o.records) 0 (rows o)
  refine ⟨hlines, ?_, ?_⟩
  · rw [head, hlines, count_flatMap_feed (count_lineText _ _)]
  · rw [head, hlines, pieces_flatMap_feed_iff]
    simp only [← List.count_eq_zero, count_lineText]

theorem map_fst_rows_query (s : Session) (q : Query) :
    (rows (s.query q)).map Prod.fst = (s.query q).records :=
  List.map_fst_zip (by simp [Session.query, annotate])

/-- **The lines of the report on an outcome**, without details and colors: those of the records,
then the number of messages, then the errors. The outcome of a query annotates all of its
records. -/
theorem lines_messagesDocument (s : Session) (detailsError : Option String) :
    (∀ o : Outcome,
      (messagesDocument s o [] detailsError).render false =
        head s o ++ Document.text (summaryLine o.records.length s.records.length) ++
          Document.text ((allErrors o detailsError).flatMap fun e => errorLine e.1 e.2) ∧
      HeadLines s o) ∧
    ∀ q : Query, (rows (s.query q)).map Prod.fst = (s.query q).records := by
  refine ⟨fun o => ⟨?_, headLines s o⟩, map_fst_rows_query s⟩
  simp only [Document.render_false, messagesDocument, head, rows, Document.text,
    List.flatMap_append]

/-- A log of one message of two lines. -/
def twoLines : Session := (Session.load {} "a.log" "[10:00:00] one\ntwo").2

/-- **An id of two lines** breaks the line of its record: there is no single line for each
record. -/
theorem not_lines_messagesDocument :
    ¬ ∀ (s : Session) (q : Query), ∃ lines : List (List Char),
        lines.length = (s.query q).records.length ∧ (∀ l ∈ lines, '\n' ∉ l) ∧
          head s (s.query q) = lines.flatMap fun l => l ++ ['\n'] := by
  intro h
  obtain ⟨lines, hlength, hfree, hhead⟩ := h twoLines { id := "message" }
  have hzero : (lines.flatMap id).count '\n' = 0 := by
    refine List.count_eq_zero_of_not_mem fun hmem => ?_
    obtain ⟨l, hl, hfeed⟩ := List.mem_flatMap.1 hmem
    exact hfree l hl hfeed
  have hcount : (head twoLines (twoLines.query { id := "message" })).count '\n' = lines.length := by
    rw [hhead, count_flatMap_feed (f := fun l => l) (g := id) fun _ => rfl, hzero, Nat.add_zero]
  have htwo : (head twoLines (twoLines.query { id := "message" })).count '\n' = 2 := by
    decide +kernel
  have hone : (twoLines.query { id := "message" }).records.length = 1 := by decide +kernel
  omega

end Logbook.Report
