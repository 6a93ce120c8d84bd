import Logbook.Message.Header

/-!
# Protocol traces

Editors write the messages that they exchange with a language server as traces, such as
`[Trace - 9:43:06 PM] Sending request 'textDocument/hover - (12)'.` with the data on the lines
that follow. A trace says more about a message than can be found in general.

* `Header`, `Header.read?`: the first line of a trace;
* `methodId?`, `methodName`: the id at the end of a method, and the method without it;
* `idText?`, `documentUri?`: what the data says;
* **`applyTrace`**: a record with what its trace says, and the time of the trace.
-/

namespace Logbook.Trace

/-- The first line of a trace. -/
structure Header where
  time : List Char
  sending : Bool
  kind : String
  method : List Char
  body : List Char

/-- One of some words at the start of a text, and what follows. -/
def word? (words : List String) (cs : List Char) : Option (String × List Char) :=
  (words.find? fun w => w.toList.isPrefixOf cs).map fun w => (w, cs.drop w.toList.length)

/-- A given text at the start of a text. -/
def after? (p cs : List Char) : Option (List Char) :=
  if p.isPrefixOf cs then some (cs.drop p.length) else none

/-- The first line of a trace. -/
def Header.read? (line : List Char) : Option Header := do
  let cs ← after? "[Trace - ".toList line
  let time := cs.takeWhile (· != ']')
  let cs ← after? "] ".toList (cs.dropWhile (· != ']'))
  let (direction, cs) ← word? ["Sending", "Received"] cs
  let cs ← after? [' '] cs
  let (kind, cs) ← word? ["request", "response", "notification"] cs
  let cs ← after? " '".toList cs
  let method := cs.takeWhile (· != '\'')
  let cs ← after? ['\''] (cs.dropWhile (· != '\''))
  let body := dropSpaces cs
  if body.contains '\n' then none
  else some { time, sending := direction == "Sending", kind, method, body }

/-- The id in parentheses that a text ends with, up to its end. -/
def closedId? (cs : List Char) : Option (List Char) :=
  match cs.getLast? with
  | some ')' => if cs.dropLast.contains '\n' then none else some cs.dropLast
  | _ => none

/-- A method in two: what is in front of its id, and the id. -/
def splitMethod? : List Char → Option (List Char × List Char)
  | [] => none
  | c :: rest =>
    match (after? " - (".toList (c :: rest)).bind closedId? with
    | some id => some ([], id)
    | none => (splitMethod? rest).map fun (name, id) => (c :: name, id)

/-- The id at the end of a method. -/
def methodId? (method : List Char) : Option (List Char) := (splitMethod? method).map Prod.snd

/-- A method without its id. -/
def methodName (method : List Char) : List Char :=
  ((splitMethod? method).map Prod.fst).getD method

/-- The data of a trace without its label. -/
def dropLabel (cs : List Char) : List Char :=
  let labels := ["Result: ", "Params: ", "Error: "].map String.toList
  match labels.find? fun l => l.isPrefixOf cs with
  | some l => cs.drop l.length
  | none => cs

/-- The text of an id; `null` is none. -/
def idText? : Json → Option String
  | .null => none
  | .str s => some s
  | j => some (String.ofList j.compact)

/-- A text that is not empty. -/
def nonEmptyText? (j : Option Json) : Option String :=
  match j.bind Json.text? with
  | some s => if s.isEmpty then none else some s
  | none => none

/-- The document that the data is about. -/
def documentUri? (root : Json) : Option String :=
  (nonEmptyText? ((root.member? "textDocument").bind (·.member? "uri"))).or
    ((nonEmptyText? (root.member? "uri")).or
      (nonEmptyText? (((root.member? "changes").bind (·.item? 0)).bind (·.member? "uri"))))

/-- Whether a member is there and not `null`. -/
def hasMember (name : String) (j : Json) : Bool :=
  ((j.member? name).map fun v => !v.isNull).getD false

/-- What a trace says about its message: the id, the kind, and the data in which a document is
looked for. -/
structure Content where
  id : Option String
  kind : String
  root : Option Json

/-- The content of a trace. Data that names its protocol tells the kind of its message itself. -/
def Content.of (h : Header) (payload : Option Json) : Content :=
  match payload with
  | some j =>
    if (j.member? "jsonrpc").isSome then
      let id := (j.member? "id").bind idText?
      let answered := hasMember "result" j || hasMember "error" j
      { id
        kind := if id.isNone then "notification" else if answered then "response" else "request"
        root := j.member? "params" }
    else { id := (methodId? h.method).map String.ofList, kind := h.kind, root := some j }
  | none => { id := (methodId? h.method).map String.ofList, kind := h.kind, root := none }

/-- The method that cancels a request. -/
def cancelMethod : String := "$/cancelRequest"

/-- The log of one side of a trace. -/
def sideLog (log : String) (sending : Bool) : String :=
  let side := if sending then "client" else "server"
  if log == defaultLog then side else log ++ ":" ++ side

/-- The id of a message: a request of the server, and the answer to it, have a mark in front. -/
def markedId (log kind : String) (id : Option String) : Option String :=
  let fromServer := isServerLog log != (kind == "response")
  id.map fun i => if fromServer then "s#" ++ i else i

/-- A record with what its trace says, and the time of the trace; a message that is no trace has
none. -/
def applyTrace (r : Record) (lines : List (List Char)) : Record × Option Instant :=
  let found := do
    let first ← lines.head?
    let h ← Header.read? first
    let t ← readStamp? h.time
    some (h, t)
  match found with
  | none => (r, none)
  | some (h, t) =>
    let log := sideLog r.log h.sending
    let title := String.ofList (methodName h.method)
    let payload := Json.parse? (dropLabel (joinLines lines.tail))
    let content := Content.of h payload
    let id :=
      if title == cancelMethod then (content.root.bind (·.member? "id")).bind idText?
      else markedId log content.kind content.id
    let filename := (content.root.bind documentUri?).map fun uri =>
      String.ofList (lastSegment uri.toList)
    ({ r with
        log
        title := some title
        body := String.ofList h.body
        id
        filename
        tags := { kind := some content.kind }
        payload }, some t)

end Logbook.Trace
