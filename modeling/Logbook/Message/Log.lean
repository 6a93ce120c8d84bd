import Logbook.Message.Trace

/-!
# Logs

A log is a run of lines; each line that opens a message starts a block, which goes on up to the next
such line. A combined stream holds several logs, each behind a line with its path.

* `blocks`: the blocks of a log, without the lines ahead of the first one;
* `readMessage?`, **`parseMessage?`**: the record of one block, without its time and with it;
* **`parseLog`**: the records of a log, each of which takes over a time where it has none;
* `Segment`, `splitLogs`: the logs of a combined stream.
-/

namespace Logbook

/-- A line of text. -/
abbrev Line := List Char

/-- Without the empty lines at the end. -/
def dropEmptyLines (lines : List Line) : List Line :=
  (lines.reverse.dropWhile List.isEmpty).reverse

/-- The record of some lines without a time, and the time stamp of its own, if the first line opens
a message. -/
def readMessage? (log : String) (lines : List Line) : Option (Record × Option Instant) :=
  match dropEmptyLines lines with
  | [] => none
  | first :: following =>
    if startsMessage first then
      let (raw, line) := stripTags first
      let (title, body) := splitTitle line
      let c := classify raw
      let record : Record :=
        { log
          message := String.ofList (joinLines (first :: following))
          tags := c.tags
          line := String.ofList line
          title := title.map String.ofList
          body := String.ofList body
          id := c.id
          filename := (findFilename body).map String.ofList
          payload := findPayload body following }
      let (record, traced) := Trace.applyTrace record (first :: following)
      some (record, traced.or c.time)
    else none

/-- The time of a message with a stamp of its own or without one, behind a record with time `prev`:
the stamp rolled past that time, or else that time. -/
def timeAfter (prev own : Option Instant) : Option Instant :=
  (own.map (·.rollPast prev)).or prev

/-- The record of some lines, if the first one opens a message. `prev` is the time of the record
before. -/
def parseMessage? (log : String) (prev : Option Instant) (lines : List Line) : Option Record :=
  (readMessage? log lines).map fun (r, own) => { r with time := timeAfter prev own }

/-- The lines ahead of the first block, and the blocks. -/
def splitBlocks : List Line → List Line × List (List Line)
  | [] => ([], [])
  | l :: ls =>
    let (ahead, bs) := splitBlocks ls
    if startsMessage l then ([], (l :: ahead) :: bs) else (l :: ahead, bs)

/-- The blocks of a log. -/
def blocks (lines : List Line) : List (List Line) := (splitBlocks lines).2

/-- The records of blocks, each read with the time of the one before, and the last time of all. -/
def parseBlocks (log : String) (prev : Option Instant) :
    List (List Line) → List Record × Option Instant
  | [] => ([], prev)
  | b :: bs =>
    match parseMessage? log prev b with
    | some r =>
      let (rs, last) := parseBlocks log (r.time.or prev) bs
      (r :: rs, last)
    | none => parseBlocks log prev bs

/-- The records of the lines of a log. Those ahead of the first time take the last one. -/
def parseLines (log : String) (lines : List Line) : List Record :=
  let (rs, last) := parseBlocks log none (blocks lines)
  rs.map fun r => { r with time := r.time.or last }

/-- **The records of a log.** -/
def parseLog (log text : String) : List Record := parseLines log (Text.lines text.toList)

/-! ## Combined streams -/

/-- One log of a combined stream. -/
structure Segment where
  name : String
  lines : List Line

/-- The path on a line between two logs, `==> path <==`. -/
def dividerPath? (line : Line) : Option (List Char) :=
  let opening := "==> ".toList
  let closing := " <==".toList
  if opening.isPrefixOf line then
    let rest := line.drop opening.length
    if closing.isSuffixOf rest then
      let path := rest.take (rest.length - closing.length)
      if path.contains '\n' then none else some path
    else none
  else none

/-- The lines of the log at hand, and the logs behind it. -/
def splitSegments : List Line → List Line × List Segment
  | [] => ([], [])
  | l :: ls =>
    let (lines, more) := splitSegments ls
    match dividerPath? l with
    | some path => ([], ⟨logName (String.ofList path), lines⟩ :: more)
    | none => (l :: lines, more)

/-- The logs of a combined stream, first the one without a name. -/
def splitLogs (text : String) : List Segment :=
  let (lines, more) := splitSegments (Text.lines text.toList)
  ⟨defaultLog, lines⟩ :: more

end Logbook
