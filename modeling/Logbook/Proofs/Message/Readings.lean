import Mathlib.Data.List.Infix
import Logbook.Proofs.Message.Blocks

/-!
# What is read of a message

The first line of a message decides how the message is read: where it is the first line of a trace
with a time, the trace says most of the record, and otherwise it is found in the text.

* `Trace.payload?`, `Trace.root?`: the data of a trace, and what of it the message is about;
* `Trace.tracedId`: the id that a trace gives its message;
* `Trace.opening?`: the first line of a trace with its time;
* `untraced`, `Trace.traced`: the record as it is found in the text, and as its trace has it;
* `reading`, `message_reading`: the record of a message that opens with some line, and its stamp;
* **`readMessage?_cons`**, `exists_reading_of_readMessage?`, `exists_reading_of_parseMessage?`: this
  is what is read.
-/

namespace Logbook

/-! ## What a trace says -/

namespace Trace

/-- The data of a message in the lines that follow its first one. -/
def payload? (following : List Line) : Option Json :=
  Json.parse? (dropLabel (joinLines (dropEmptyLines following)))

/-- The part of the data that a message is about: the parameters where it names its protocol, else
all of it. -/
def root? (payload : Option Json) : Option Json :=
  payload.bind fun j => if (j.member? "jsonrpc").isSome then j.member? "params" else some j

theorem root_of (h : Header) (payload : Option Json) :
    (Content.of h payload).root = root? payload := by
  cases payload with
  | none => rfl
  | some j =>
    rw [Content.of, root?, Option.bind_some]
    split <;> rfl

/-- The id that a trace gives its message. -/
def tracedId (log : String) (h : Header) (payload : Option Json) : Option String :=
  if String.ofList (methodName h.method) = cancelMethod then
    ((root? payload).bind (·.member? "id")).bind idText?
  else markedId (sideLog log h.sending) (Content.of h payload).kind (Content.of h payload).id

end Trace

/-! ## Records with a trace and without one -/

/-- The first line of a trace, and its time. -/
def Trace.opening? (first : Line) : Option (Trace.Header × Instant) :=
  (Trace.Header.read? first).bind fun h => (readStamp? h.time).map (h, ·)

/-- The record of a message by what is found in its text. -/
def untraced (log : String) (first : Line) (following : List Line) : Record :=
  { log
    message := String.ofList (joinLines (first :: following))
    tags := (classify (stripTags first).1).tags
    line := String.ofList (stripTags first).2
    title := (splitTitle (stripTags first).2).1.map String.ofList
    body := String.ofList (splitTitle (stripTags first).2).2
    id := (classify (stripTags first).1).id
    filename := (findFilename (splitTitle (stripTags first).2).2).map String.ofList
    payload := findPayload (splitTitle (stripTags first).2).2 following }

/-- A record with what its trace says. -/
def Trace.traced (r : Record) (h : Trace.Header) (payload : Option Json) : Record :=
  { r with
    log := sideLog r.log h.sending
    title := some (String.ofList (methodName h.method))
    body := String.ofList h.body
    id := tracedId r.log h payload
    filename := ((root? payload).bind documentUri?).map fun uri =>
      String.ofList (lastSegment uri.toList)
    tags := { kind := some (Content.of h payload).kind }
    payload }

theorem Trace.applyTrace_of_none {first : Line} (h : opening? first = none) (r : Record)
    (following : List Line) : applyTrace r (first :: following) = (r, none) := by
  unfold opening? at h
  cases hread : Header.read? first with
  | none => simp [applyTrace, hread]
  | some header =>
    rw [hread, Option.bind_some, Option.map_eq_none_iff] at h
    simp [applyTrace, hread, h]

theorem Trace.applyTrace_of_some {first : Line} {h : Header} {t : Instant}
    (hopen : opening? first = some (h, t)) (r : Record) (following : List Line) :
    applyTrace r (first :: following) =
      (traced r h (Json.parse? (dropLabel (joinLines following))), some t) := by
  obtain ⟨header, hread, htime⟩ := Option.bind_eq_some_iff.mp hopen
  obtain ⟨stamp, hstamp, heq⟩ := Option.map_eq_some_iff.mp htime
  obtain ⟨rfl, rfl⟩ := Prod.mk.inj heq
  simp [applyTrace, hread, hstamp, traced, tracedId, root_of]

/-! ## Reading -/

/-- The record of a message that opens with `first`, and its stamp. -/
def reading (log : String) (first : Line) (following : List Line) : Record × Option Instant :=
  match Trace.opening? first with
  | none => (untraced log first (dropEmptyLines following), (classify (stripTags first).1).time)
  | some (h, t) =>
    (Trace.traced (untraced log first (dropEmptyLines following)) h (Trace.payload? following),
      some t)

theorem reading_of_none {first : Line} (h : Trace.opening? first = none) (log : String)
    (following : List Line) : reading log first following =
      (untraced log first (dropEmptyLines following), (classify (stripTags first).1).time) := by
  rw [reading, h]

theorem reading_of_some {first : Line} {h : Trace.Header} {t : Instant}
    (hopen : Trace.opening? first = some (h, t)) (log : String) (following : List Line) :
    reading log first following =
      (Trace.traced (untraced log first (dropEmptyLines following)) h (Trace.payload? following),
        some t) := by
  rw [reading, hopen]

theorem message_reading (log : String) (first : Line) (following : List Line) :
    (reading log first following).1.message =
      String.ofList (joinLines (first :: dropEmptyLines following)) := by
  unfold reading
  split <;> rfl

theorem prefix_dropEmptyLines (lines : List Line) : dropEmptyLines lines <+: lines := by
  rw [dropEmptyLines, ← List.reverse_suffix, List.reverse_reverse]
  exact List.dropWhile_suffix _

theorem readMessage?_of_not_starts (log : String) {first : Line} (h : ¬ startsMessage first = true)
    (following : List Line) : readMessage? log (first :: following) = none := by
  unfold readMessage?
  split
  · rfl
  · next first' following' hlines =>
    have hprefix := prefix_dropEmptyLines (first :: following)
    rw [hlines] at hprefix
    rw [(List.cons_prefix_cons.1 hprefix).1, if_neg h]

/-- **A message is read by its first line**, if that opens one. -/
theorem readMessage?_cons (log : String) (first : Line) (following : List Line) :
    readMessage? log (first :: following) =
      if startsMessage first = true then some (reading log first following) else none := by
  by_cases h : startsMessage first = true
  · rw [if_pos h, readMessage?, dropEmptyLines_cons (ne_nil_of_startsMessage h)]
    simp only [if_pos h]
    refine congrArg some ?_
    cases hopen : Trace.opening? first with
    | none =>
      rw [Trace.applyTrace_of_none hopen, reading_of_none hopen]
      rfl
    | some opening =>
      rw [Trace.applyTrace_of_some hopen, reading_of_some hopen]
      rfl
  · rw [if_neg h, readMessage?_of_not_starts log h]

theorem exists_reading_of_readMessage? {log : String} {lines : List Line}
    {m : Record × Option Instant} (h : readMessage? log lines = some m) :
    ∃ first following, lines = first :: following ∧ startsMessage first = true ∧
      m = reading log first following := by
  cases lines with
  | nil => cases h
  | cons first following =>
    rw [readMessage?_cons] at h
    split at h
    · next hfirst => exact ⟨first, following, rfl, hfirst, (Option.some.inj h).symm⟩
    · cases h

theorem exists_reading_of_parseMessage? {log : String} {prev : Option Instant} {lines : List Line}
    {r : Record} (h : parseMessage? log prev lines = some r) :
    ∃ first following, lines = first :: following ∧ startsMessage first = true ∧
      r = { (reading log first following).1 with
        time := timeAfter prev (reading log first following).2 } := by
  obtain ⟨m, hm, rfl⟩ := Option.map_eq_some_iff.1 h
  obtain ⟨first, following, rfl, hfirst, rfl⟩ := exists_reading_of_readMessage? hm
  exact ⟨first, following, rfl, hfirst, rfl⟩

end Logbook
