import Logbook.Proofs.Text.Pieces
import Logbook.Session

/-!
# Combined streams

* `divider`, `dividerPath?_eq_some_iff`: the line in front of a log, and that no other line is read
  as one;
* `LogFile`, `stream`: logs put together to one stream, each behind a divider with its path;
* `splitSegments_append`, `splitSegments_divider`: lines stay with the log at hand, and a divider
  ends it;
* **`splitLogs_stream`**: the logs of a stream are found again, and give the records that they give
  one by one.
-/

namespace Logbook

/-! ## Dividers -/

/-- The line in front of a log. -/
def divider (path : List Char) : Line := "==> ".toList ++ path ++ " <==".toList

theorem dividerPath?_divider {path : List Char} (h : '\n' ∉ path) :
    dividerPath? (divider path) = some path := by
  have hopening : "==> ".toList.isPrefixOf (divider path) = true := by
    rw [List.isPrefixOf_iff_prefix, divider, List.append_assoc]
    exact List.prefix_append _ _
  have hrest : (divider path).drop "==> ".toList.length = path ++ " <==".toList := by
    rw [divider, List.append_assoc, List.drop_left]
  have hclosing : " <==".toList.isSuffixOf (path ++ " <==".toList) = true :=
    List.isSuffixOf_iff_suffix.2 (List.suffix_append _ _)
  have hcontains : path.contains '\n' = false := by simpa using h
  simp only [dividerPath?, hopening, hrest, hclosing, if_true, List.length_append,
    Nat.add_sub_cancel, List.take_left, hcontains, Bool.false_eq_true, if_false]

theorem dividerPath?_eq_some_iff {line : Line} {path : List Char} :
    dividerPath? line = some path ↔ line = divider path ∧ '\n' ∉ path := by
  refine ⟨fun h => ?_, fun ⟨hline, hpath⟩ => hline ▸ dividerPath?_divider hpath⟩
  simp only [dividerPath?] at h
  split at h
  · next hopening =>
    obtain ⟨rest, rfl⟩ := List.isPrefixOf_iff_prefix.1 hopening
    rw [List.drop_left] at h
    split at h
    · next hclosing =>
      obtain ⟨p, rfl⟩ := List.isSuffixOf_iff_suffix.1 hclosing
      rw [List.length_append, Nat.add_sub_cancel, List.take_left] at h
      split at h
      · cases h
      · next hfeed =>
        obtain rfl := Option.some.inj h
        exact ⟨(List.append_assoc ..).symm, by simpa using hfeed⟩
    · cases h
  · cases h

theorem dividerPath?_eq_none {line : Line} (h : ∀ path, line ≠ divider path) :
    dividerPath? line = none :=
  Option.eq_none_iff_forall_not_mem.2 fun path hpath => h path (dividerPath?_eq_some_iff.1 hpath).1

theorem dividerPath?_eq_none_iff {line : Line} (h : '\n' ∉ line) :
    dividerPath? line = none ↔ ∀ path, line ≠ divider path := by
  refine ⟨fun hnone path hline => ?_, dividerPath?_eq_none⟩
  have hpath : '\n' ∉ path := fun hmem => h (by simp [hline, divider, hmem])
  rw [dividerPath?_eq_some_iff.2 ⟨hline, hpath⟩] at hnone
  cases hnone

/-! ## Streams -/

/-- A log with the path of its file. -/
structure LogFile where
  path : String
  text : String

namespace LogFile

/-- The log stands behind its divider, and no line of it is taken for another one. -/
def Separable (f : LogFile) : Prop :=
  '\n' ∉ f.path.toList ∧ ∀ line ∈ Text.lines f.text.toList, ∀ path, line ≠ divider path

theorem separable_iff {f : LogFile} : f.Separable ↔
    '\n' ∉ f.path.toList ∧ ∀ line ∈ Text.lines f.text.toList, dividerPath? line = none :=
  and_congr_right fun _ => forall₂_congr fun _ hline =>
    (dividerPath?_eq_none_iff (Text.not_mem_of_mem_lines hline)).symm

/-- The log behind its divider. -/
def entry (f : LogFile) : List Char := divider f.path.toList ++ '\n' :: f.text.toList

/-- The log as a part of a stream. -/
def segment (f : LogFile) : Segment := ⟨logName f.path, Text.lines f.text.toList⟩

/-- The lines of the log behind its divider. -/
def entryLines (f : LogFile) : List Line := divider f.path.toList :: f.segment.lines

/-- The records of the log when it is read by itself. -/
def records (f : LogFile) : List Record := parseLog (logName f.path) f.text

end LogFile

/-- Logs put together to one stream. -/
def stream (files : List LogFile) : String :=
  String.ofList (['\n'].intercalate (files.map LogFile.entry))

theorem lines_divider {path : List Char} (h : '\n' ∉ path) :
    Text.lines (divider path) = [divider path] := by
  have hfeed : '\n' ∉ divider path := by simpa [divider] using h
  have hlast : (divider path).getLast? = some '=' := by
    rw [divider, List.getLast?_append]
    rfl
  rw [Text.lines, Text.pieces_of_not_mem hfeed, List.map_singleton, Text.dropReturn, hlast]
  rfl

theorem lines_entry {f : LogFile} (h : f.Separable) :
    Text.lines f.entry = f.entryLines := by
  rw [LogFile.entry, Text.lines_append_feed, lines_divider h.1]
  rfl

/-- The lines of a stream are the dividers with the lines of the logs behind them. -/
theorem lines_stream : ∀ {files : List LogFile}, files ≠ [] → (∀ f ∈ files, f.Separable) →
    Text.lines (stream files).toList = files.flatMap LogFile.entryLines
  | [], hne, _ => absurd rfl hne
  | [f], _, h => by
    rw [stream, String.toList_ofList, List.map_singleton, List.intercalate_singleton,
      lines_entry (h f (List.mem_singleton_self f)), List.flatMap_singleton]
  | f :: g :: files, _, h => by
    obtain ⟨hf, hmore⟩ := List.forall_mem_cons.1 h
    have ih := lines_stream (List.cons_ne_nil g files) hmore
    rw [stream, String.toList_ofList, List.map_cons] at ih ⊢
    rw [List.map_cons, List.intercalate_cons_cons, List.append_assoc, List.singleton_append,
      Text.lines_append_feed, lines_entry hf, ih, List.flatMap_cons (x := f)]

/-! ## Splitting -/

theorem splitSegments_append {lines : List Line} (h : ∀ line ∈ lines, ∀ path, line ≠ divider path)
    (rest : List Line) :
    splitSegments (lines ++ rest) = (lines ++ (splitSegments rest).1, (splitSegments rest).2) := by
  induction lines with
  | nil => rfl
  | cons line lines ih =>
    obtain ⟨hline, hlines⟩ := List.forall_mem_cons.1 h
    rw [List.cons_append, splitSegments, ih hlines]
    simp only [dividerPath?_eq_none hline, List.cons_append]

/-- A divider ends the log at hand and begins another one. -/
theorem splitSegments_divider {path : List Char} (h : '\n' ∉ path) (rest : List Line) :
    splitSegments (divider path :: rest) =
      ([], ⟨logName (String.ofList path), (splitSegments rest).1⟩ :: (splitSegments rest).2) := by
  rw [splitSegments]
  simp only [dividerPath?_divider h]

theorem splitSegments_files {files : List LogFile} (h : ∀ f ∈ files, f.Separable) :
    splitSegments (files.flatMap LogFile.entryLines) = ([], files.map LogFile.segment) := by
  induction files with
  | nil => rfl
  | cons f files ih =>
    obtain ⟨hf, hmore⟩ := List.forall_mem_cons.1 h
    have hlines : ∀ line ∈ f.segment.lines, ∀ path, line ≠ divider path := hf.2
    rw [List.flatMap_cons, LogFile.entryLines, List.cons_append, splitSegments_divider hf.1,
      splitSegments_append hlines, ih hmore, List.append_nil, String.ofList_toList, List.map_cons]
    rfl

/-- The logs of a stream, behind what has no divider: nothing but empty lines. -/
theorem exists_splitLogs_eq {files : List LogFile} (h : ∀ f ∈ files, f.Separable) :
    ∃ ahead, (∀ line ∈ ahead, line = []) ∧
      splitLogs (stream files) = ⟨defaultLog, ahead⟩ :: files.map LogFile.segment := by
  by_cases hne : files = []
  · subst hne
    exact ⟨[[]], by simp, rfl⟩
  · refine ⟨[], by simp, ?_⟩
    rw [splitLogs, lines_stream hne h, splitSegments_files h]

theorem blocks_of_empty {lines : List Line} (h : ∀ line ∈ lines, line = []) :
    blocks lines = [] := by
  induction lines with
  | nil => rfl
  | cons line lines ih =>
    obtain ⟨rfl, hlines⟩ := List.forall_mem_cons.1 h
    exact ih hlines

theorem parseLines_of_empty (log : String) {lines : List Line} (h : ∀ line ∈ lines, line = []) :
    parseLines log lines = [] := by
  rw [parseLines, blocks_of_empty h]
  rfl

/-- **The logs of a stream are found again**: each with its name and with all of its lines, so that
they give the records which they give when they are read one by one. -/
theorem splitLogs_stream {files : List LogFile} (h : ∀ f ∈ files, f.Separable) :
    (∃ ahead, (∀ line ∈ ahead, line = []) ∧
      splitLogs (stream files) = ⟨defaultLog, ahead⟩ :: files.map LogFile.segment) ∧
    ((splitLogs (stream files)).flatMap fun s => parseLines s.name s.lines) =
      files.flatMap LogFile.records ∧
    ∀ s : Session, s.ingest (stream files) = s.append (files.flatMap LogFile.records) := by
  obtain ⟨ahead, hahead, hsplit⟩ := exists_splitLogs_eq h
  have hrecords : ((splitLogs (stream files)).flatMap fun s => parseLines s.name s.lines) =
      files.flatMap LogFile.records := by
    rw [hsplit, List.flatMap_cons, parseLines_of_empty _ hahead, List.nil_append, List.flatMap_map]
    rfl
  exact ⟨⟨ahead, hahead, hsplit⟩, hrecords, fun s => by rw [Session.ingest, hrecords]⟩

/-- Two logs, one with lines ahead of its message, a carriage return and blank lines at its end, the
other one empty. -/
def buildFiles : List LogFile :=
  [⟨"/var/log/build.output", "orphan\n[10:00:00] a <==\r\n==> b\n\n"⟩, ⟨"C:\\x.js", ""⟩]

theorem separable_buildFiles : ∀ f ∈ buildFiles, f.Separable := by
  simp only [LogFile.separable_iff]
  decide

theorem splitLogs_stream_build :
    (∀ f ∈ buildFiles, f.Separable) ∧
    stream buildFiles = "==> /var/log/build.output <==\norphan\n[10:00:00] a <==\r\n==> b\n\n\n" ++
      "==> C:\\x.js <==\n" ∧
    ((splitLogs (stream buildFiles)).flatMap fun s => parseLines s.name s.lines) =
      parseLog "build" "orphan\n[10:00:00] a <==\r\n==> b\n\n" ++ parseLog "x.js" "" :=
  ⟨separable_buildFiles, rfl, (splitLogs_stream separable_buildFiles).2.1⟩

end Logbook
