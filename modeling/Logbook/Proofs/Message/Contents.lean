import Logbook.Proofs.Message.Payload
import Logbook.Proofs.Message.Readings

/-!
# The data and the file of a record

A record is meant to have an array or an object for its data, and the bare name of a file. What is
looked for in a text is of that kind; what a trace says of its message is taken over as it is.

* `brackets?_of_parseRelaxed?`, `brackets?_of_findPayload`: relaxed reading finds arrays and objects
  alone;
* `lastSegment_eq_nil_iff`, `bareName_of_findFilename`: paths that lead to no file, and the names
  that are found;
* `Trace.data?`, `Trace.document?`: the data of a trace, and the document that it names;
* **`contents_of_parseMessage?`**: the records with other contents are those of traces whose data is
  neither an array nor an object, or names a document by a path that leads to no file.
-/

namespace Logbook

open Json

/-! ## Structured data -/

theorem brackets?_of_parse? {b m : List Char} {c : Char} {v : Json}
    (hb : ∀ d ∈ b, Text.isBlank d = true) (hc : c = '[' ∨ c = '\x7b')
    (h : parse? (b ++ c :: m) = some v) : (brackets? v).isSome = true := by
  have hblank : Text.isBlank c = false := by
    rcases hc with rfl | rfl <;> rfl
  obtain ⟨t, s, -, ht, -⟩ := exists_bare_of_parse? hb hblank h
  rw [ht.brackets?_eq]
  rcases hc with rfl | rfl <;> rfl

/-- **Relaxed reading gives arrays and objects alone**, for its steps leave the bracket in front
where it is. -/
theorem brackets?_of_parseRelaxed? {cs : List Char} {v : Json} (h : parseRelaxed? cs = some v) :
    (brackets? v).isSome = true := by
  unfold parseRelaxed? at h
  split at h
  · next hopens =>
    obtain ⟨b, c, m, hb, hc, rfl⟩ := Relaxed.opensStructure_iff.1 hopens
    rcases Option.or_eq_some_iff.1 h with h | ⟨-, h⟩
    · exact brackets?_of_parse? hb hc h
    · have hstays : Relaxed.Stays c := by
        rcases hc with rfl | rfl <;> exact ⟨by decide, by decide⟩
      rw [Relaxed.tidy_append fun d hd => Relaxed.stays_of_isBlank (hb d hd),
        Relaxed.tidy_cons hstays] at h
      exact brackets?_of_parse? hb hc h
  · cases h

theorem brackets?_of_findPayload {body : List Char} {following : List Line} {v : Json}
    (h : findPayload body following = some v) : (brackets? v).isSome = true := by
  rcases Option.or_eq_some_iff.1 h with h | ⟨-, h⟩
  · obtain ⟨start, -, h⟩ := Option.bind_eq_some_iff.1 h
    exact brackets?_of_parseRelaxed? h
  · exact brackets?_of_parseRelaxed? h

/-! ## Names of files -/

/-- A path that leads to no file ends in a separator. -/
theorem lastSegment_eq_nil_iff {path : List Char} :
    lastSegment path = [] ↔ ∀ c ∈ path.getLast?, isPathSeparator c = true := by
  rw [lastSegment, afterLast, List.reverse_eq_nil_iff, ← List.head?_reverse]
  cases path.reverse with
  | nil => simp
  | cons c cs => cases hc : isPathSeparator c <;> simp [hc]

theorem ofList_lastSegment_eq_empty_iff {path : String} (h : path ≠ "") :
    String.ofList (lastSegment path.toList) = "" ↔
      ∃ c, path.toList.getLast? = some c ∧ isPathSeparator c = true := by
  have hnil : String.ofList (lastSegment path.toList) = "" ↔ lastSegment path.toList = [] := by
    rw [← String.toList_inj, String.toList_ofList]
    rfl
  rw [hnil, lastSegment_eq_nil_iff]
  cases hlast : path.toList.getLast? with
  | none => exact absurd (String.toList_inj.1 (List.getLast?_eq_none_iff.1 hlast)) h
  | some c => simp

theorem bareName_of_findFilename {body name : List Char} (h : findFilename body = some name) :
    name ≠ [] ∧ ∀ c ∈ name, isPathSeparator c = false := by
  unfold findFilename at h
  split at h
  · cases h
  · next hname =>
    obtain ⟨path, -, rfl⟩ := Option.map_eq_some_iff.1 h
    refine ⟨fun hnil => hname ?_, fun c => not_isPathSeparator_of_mem_lastSegment⟩
    rw [h, hnil]

namespace Trace

/-- The data of a trace; other messages have none. -/
def data? : List Line → Option Json
  | [] => none
  | first :: following => (opening? first).bind fun _ => payload? following

/-- The document that the data of a trace names. -/
def document? (lines : List Line) : Option String := (root? (data? lines)).bind documentUri?

theorem nonEmptyText?_ne_empty {j : Option Json} {s : String} (h : nonEmptyText? j = some s) :
    s ≠ "" := by
  unfold nonEmptyText? at h
  split at h
  · split at h
    · cases h
    · next hs =>
      rintro rfl
      obtain rfl := Option.some.inj h
      exact hs rfl
  · cases h

theorem documentUri?_ne_empty {root : Json} {s : String} (h : documentUri? root = some s) :
    s ≠ "" := by
  rcases Option.or_eq_some_iff.1 h with h | ⟨-, h⟩
  · exact nonEmptyText?_ne_empty h
  rcases Option.or_eq_some_iff.1 h with h | ⟨-, h⟩
  · exact nonEmptyText?_ne_empty h
  · exact nonEmptyText?_ne_empty h

end Trace

/-! ## Contents -/

/-- What is looked for in a text is found with the contents that are meant. -/
theorem contents_untraced (log : String) (first : Line) (following : List Line) :
    (∀ j, (untraced log first following).payload = some j → (brackets? j).isSome = true) ∧
      ∀ name, (untraced log first following).filename = some name →
        name ≠ "" ∧ ∀ c ∈ name.toList, isPathSeparator c = false := by
  refine ⟨fun j => brackets?_of_findPayload, fun name hname => ?_⟩
  obtain ⟨found, hfound, rfl⟩ := Option.map_eq_some_iff.1 hname
  obtain ⟨hne, hbare⟩ := bareName_of_findFilename hfound
  refine ⟨fun hempty => hne ?_, fun c hc => hbare c ?_⟩
  · simpa using congrArg String.toList hempty
  · simpa using hc

/-- The file of a trace is the document that its data names. -/
theorem contents_traced (r : Record) (h : Trace.Header) (payload : Option Json) :
    (∀ name, (Trace.traced r h payload).filename = some name →
        ∀ c ∈ name.toList, isPathSeparator c = false) ∧
      ((Trace.traced r h payload).filename = some "" ↔
        ∃ uri c, (Trace.root? payload).bind Trace.documentUri? = some uri ∧
          uri.toList.getLast? = some c ∧ isPathSeparator c = true) := by
  have hfile : (Trace.traced r h payload).filename =
      ((Trace.root? payload).bind Trace.documentUri?).map fun uri =>
        String.ofList (lastSegment uri.toList) := rfl
  rw [hfile]
  cases hdocument : (Trace.root? payload).bind Trace.documentUri? with
  | none => simp
  | some uri =>
    obtain ⟨root, -, huri⟩ := Option.bind_eq_some_iff.1 hdocument
    constructor
    · rintro _ ⟨⟩ c hc
      exact not_isPathSeparator_of_mem_lastSegment (by simpa using hc)
    · have hempty := ofList_lastSegment_eq_empty_iff (Trace.documentUri?_ne_empty huri)
      simpa using hempty

/-- **The data and the file of a record that is read.** The data is an array or an object, unless it
is that of a trace and neither of the two. The name of the file is no path, and it is empty only
where a trace names a document whose path ends in a separator. -/
theorem contents_of_parseMessage? {log : String} {prev : Option Instant} {lines : List Line}
    {r : Record} (h : parseMessage? log prev lines = some r) :
    ((∀ j, r.payload = some j → (brackets? j).isSome = true) ↔
        ∀ j, Trace.data? lines = some j → (brackets? j).isSome = true) ∧
      (∀ name, r.filename = some name → ∀ c ∈ name.toList, isPathSeparator c = false) ∧
      (r.filename = some "" ↔ ∃ uri c, Trace.document? lines = some uri ∧
        uri.toList.getLast? = some c ∧ isPathSeparator c = true) := by
  obtain ⟨first, following, rfl, -, rfl⟩ := exists_reading_of_parseMessage? h
  unfold Trace.document?
  cases hopen : Trace.opening? first with
  | none =>
    have hdata : Trace.data? (first :: following) = none := by
      rw [Trace.data?, hopen, Option.bind_none]
    obtain ⟨hpayload, hname⟩ := contents_untraced log first (dropEmptyLines following)
    rw [reading_of_none hopen, hdata]
    refine ⟨iff_of_true hpayload (by simp), fun name h => (hname name h).2, ?_⟩
    refine iff_of_false (fun hempty => (hname _ hempty).1 rfl) ?_
    rintro ⟨_, _, hdocument, -⟩
    cases hdocument
  | some opening =>
    have hdata : Trace.data? (first :: following) = Trace.payload? following := by
      rw [Trace.data?, hopen, Option.bind_some]
    rw [reading_of_some hopen, hdata]
    exact ⟨.rfl, contents_traced (untraced log first (dropEmptyLines following)) opening.1 _⟩

/-- A trace whose data is an object that names a document. -/
def openedTrace : List Line :=
  ["[Trace - 10:00:00 AM] Sending notification 'textDocument/didOpen'.".toList,
    "Params: \x7b\"textDocument\":\x7b\"uri\":\"file:///src/main.rs\"\x7d\x7d".toList]

theorem contents_openedTrace : ∃ r, parseMessage? "(default)" none openedTrace = some r ∧
    (∀ j, r.payload = some j → (brackets? j).isSome = true) ∧ r.filename ≠ some "" := by
  have hread : (parseMessage? "(default)" none openedTrace).isSome = true := by decide +kernel
  have hdata : (Trace.data? openedTrace).map brackets? = some (some ('\x7b', '\x7d')) := by
    decide +kernel
  have hdocument : Trace.document? openedTrace = some "file:///src/main.rs" := by decide +kernel
  obtain ⟨r, hr⟩ := Option.isSome_iff_exists.1 hread
  obtain ⟨hpayload, -, hfile⟩ := contents_of_parseMessage? hr
  refine ⟨r, hr, hpayload.2 fun j hj => ?_, fun hempty => ?_⟩
  · rw [hj, Option.map_some, Option.some_inj] at hdata
    rw [hdata]
    rfl
  · obtain ⟨uri, c, huri, hlast, hc⟩ := hfile.1 hempty
    rw [hdocument] at huri
    obtain rfl := Option.some.inj huri
    have hs : c = 's' := (Option.some.inj hlast).symm
    subst hs
    cases hc

/-- **Traces are taken over as they are.** The answer to a request may be a number, and a document
may be named by the path of a directory. -/
theorem not_contents_of_parseMessage? :
    (¬ ∀ log prev lines r, parseMessage? log prev lines = some r →
      ∀ j, r.payload = some j → (brackets? j).isSome = true) ∧
    ¬ ∀ log prev lines r, parseMessage? log prev lines = some r →
      ∀ name, r.filename = some name → name ≠ "" := by
  constructor
  · intro h
    have hread : ((parseMessage? "(default)" none
        ["[Trace - 10:00:00 AM] Received response 'm - (1)'.".toList, "Result: 5".toList]).bind
          Record.payload).map brackets? = some none := by
      decide +kernel
    obtain ⟨j, hj, hbrackets⟩ := Option.map_eq_some_iff.1 hread
    obtain ⟨r, hr, hpayload⟩ := Option.bind_eq_some_iff.1 hj
    have hsome := h _ _ _ r hr j hpayload
    rw [hbrackets] at hsome
    cases hsome
  · intro h
    have hread : (parseMessage? "(default)" none
        ["[Trace - 10:00:00 AM] Sending notification 'textDocument/didOpen'.".toList,
          "Params: \x7b\"textDocument\":\x7b\"uri\":\"file:///src/\"\x7d\x7d".toList]).bind
          Record.filename = some "" := by
      decide +kernel
    obtain ⟨r, hr, hname⟩ := Option.bind_eq_some_iff.1 hread
    exact h _ _ _ r hr "" hname rfl

end Logbook
