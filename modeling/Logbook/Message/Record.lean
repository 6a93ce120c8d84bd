import Logbook.Value.Basic

/-!
# Records

A record is one message of a log with what was found in it.

* `Tags`: the tags in front of a message, sorted by kind;
* `Record`: the message itself;
* `Field`, `Record.field`: the members that expressions can read, and their values;
* `isServerLog`: whether a log is named for the server side of a trace.
-/

namespace Logbook

/-- The words that classify a message. -/
def severities : List String := ["INFO", "DEBUG", "ERROR"]

/-- The log of text that comes without a name. -/
def defaultLog : String := "(default)"

/-- The tags of a message. -/
structure Tags where
  /-- A severity, or the kind of a trace message. -/
  kind : Option String := none
  /-- Tags of the form `key#value` by their keys, in ascending order. -/
  named : List (String × String) := []
  /-- All other tags. -/
  positional : List String := []
  deriving DecidableEq

namespace Tags

/-- The members that every tags object may have of its own; no key takes their place. -/
def reservedKeys : List String := ["kind", "positional"]

/-- The tags as an object. -/
def toValue (t : Tags) : Value :=
  let members : Keyed Value := t.named.map fun p => (p.1, Value.str p.2)
  let members := match t.kind with
    | some k => Keyed.insert "kind" (Value.str k) members
    | none => members
  .obj (Keyed.insert "positional" (.arr (t.positional.map Value.str)) members)

/-- The tags as structured data: the kind, the named tags as members beside it, and the rest. -/
def toJson (t : Tags) : Json :=
  let kind : List (String × Json) := match t.kind with
    | some k => [("kind", .str k)]
    | none => []
  .obj (Keyed.ofList (kind ++ t.named.map (fun p => (p.1, Json.str p.2))
    ++ [("positional", .arr (t.positional.map Json.str))]))

end Tags

/-- One message of a log. -/
structure Record where
  log : String
  /-- The whole text, all lines of it. -/
  message : String
  tags : Tags := {}
  /-- The time stamp, or the time taken over from other messages. -/
  time : Option Instant := none
  /-- The first line without its tags. -/
  line : String
  title : Option String := none
  body : String
  /-- What other messages about the same thing have in common. -/
  id : Option String := none
  /-- The name of a file, without its path. -/
  filename : Option String := none
  /-- The structured data at the end. -/
  payload : Option Json := none
  /-- The place in the order in which records were read. -/
  index : Nat := 0

/-- The members of a record that expressions can read. -/
inductive Field where
  | log
  | message
  | tags
  | time
  | line
  | title
  | body
  | id
  | filename
  | payload
  deriving DecidableEq, Repr

namespace Field

/-- The fields in the order of a record. -/
def all : List Field :=
  [.log, .message, .tags, .time, .line, .title, .body, .id, .filename, .payload]

/-- The name of a field. -/
def name : Field → String
  | .log => "log"
  | .message => "message"
  | .tags => "tags"
  | .time => "time"
  | .line => "line"
  | .title => "title"
  | .body => "body"
  | .id => "id"
  | .filename => "filename"
  | .payload => "payload"

/-- The field of that name. -/
def ofName? (s : String) : Option Field := all.find? fun f => f.name == s

end Field

namespace Record

/-- The value of a field; a missing one is `null`. -/
def field (r : Record) : Field → Value
  | .log => .str r.log
  | .message => .str r.message
  | .tags => r.tags.toValue
  | .time => match r.time with
    | some t => .date t
    | none => .null
  | .line => .str r.line
  | .title => .ofText? r.title
  | .body => .str r.body
  | .id => .ofText? r.id
  | .filename => .ofText? r.filename
  | .payload => match r.payload with
    | some j => .ofJson j
    | none => .null

/-- The times of records that have one. -/
def times (rs : List Record) : List Instant := rs.filterMap Record.time

end Record

/-- A log named `server`, or named for the server side of another one. -/
def isServerLog (log : String) : Bool :=
  log == "server" || ":server".toList.isSuffixOf log.toList

end Logbook
