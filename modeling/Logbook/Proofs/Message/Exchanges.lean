import Logbook.Proofs.Message.Traces

/-!
# Requests and answers

The trace of one side has a request and its answer in opposite directions. What they have in common
is the side that asked and the number that it gave the request, and the id is made of the two.

* `Trace.Details`, `Trace.Details.lines`: a request or an answer, and its lines;
* `Trace.Follows`, `Trace.Details.Fit`: data that follows the protocol, and a message with it;
* `Trace.exchangeId`: the id of the requests of one side with a number, and of their answers;
* `Trace.exists_record_lines`: a message has that id, unless it cancels a request;
* **`Trace.exchange_ids`**: an answer has the id of its request, no request of the other side has
  it, and a message that cancels a request has the id that its data names.
-/

namespace Logbook.Trace

/-! ## Messages -/

/-- The kind of a message. -/
def exchangeKind (answer : Bool) : String := if answer then "response" else "request"

theorem exchangeKind_mem_kinds (answer : Bool) : exchangeKind answer ∈ kinds := by
  cases answer <;> decide

/-- What a request or an answer has beside its method and its number: the time, what stands behind
the method, and the lines that follow. -/
structure Details where
  time : List Char
  tail : List Char
  following : List Line

/-- The lines of a request or an answer. -/
def Details.lines (d : Details) (sending answer : Bool) (name : List Char) (n : Nat) : List Line :=
  headerLine d.time sending (exchangeKind answer) (numbered name n) d.tail :: d.following

instance (j : Option Json) (n : Int) : Decidable (j = some (.int n)) :=
  match j with
  | some (.int m) => decidable_of_iff (m = n) (by simp)
  | some .null | some (.bool _) | some (.double _) | some (.str _) | some (.arr _) | some (.obj _)
  | none => isFalse (by simp)

/-- Data that names its protocol has the number for its id; that of an answer has a result or an
error, that of a request has none. -/
def Follows (answer : Bool) (n : Nat) : Option Json → Prop
  | none => True
  | some j => (j.member? "jsonrpc").isSome = true →
    j.member? "id" = some (.int n) ∧ (hasMember "result" j || hasMember "error" j) = answer

instance (answer : Bool) (n : Nat) (payload : Option Json) : Decidable (Follows answer n payload) :=
  match payload with
  | none => isTrue trivial
  | some j => inferInstanceAs (Decidable ((j.member? "jsonrpc").isSome = true →
    j.member? "id" = some (.int n) ∧ (hasMember "result" j || hasMember "error" j) = answer))

/-- A message with a time stamp and with data that follows the protocol. -/
structure Details.Fit (d : Details) (answer : Bool) (n : Nat) : Prop where
  bracket : ']' ∉ d.time
  stamp : (readStamp? d.time).isSome = true
  feed : '\n' ∉ d.tail
  data : Follows answer n (payload? d.following)

/-- A name of a method: no quote ends it, and no number starts in it. -/
structure IsMethod (name : List Char) : Prop where
  quote : '\'' ∉ name
  number : ¬ " - (".toList <:+: name

/-! ## Ids -/

/-- The id of the requests of one side with a number, and of their answers. -/
def exchangeId (server : Bool) (n : Nat) : String :=
  if server then "s#" ++ String.ofList (Text.decimal n) else String.ofList (Text.decimal n)

/-- The two sides have no id in common. -/
theorem exchangeId_ne (m n : Nat) : exchangeId false m ≠ exchangeId true n := by
  intro h
  obtain ⟨c, cs, hcs, hdigit⟩ := (Text.writes_decimal m).exists_cons
  have hlist : c :: cs = 's' :: '#' :: Text.decimal n := by
    simpa [exchangeId, hcs] using congrArg String.toList h
  rw [(List.cons.inj hlist).1] at hdigit
  exact absurd hdigit (by decide)

variable {name : List Char} {n : Nat} {answer : Bool} {d : Details}

theorem IsMethod.not_mem_numbered (h : IsMethod name) (n : Nat) : '\'' ∉ numbered name n := by
  have hdecimal : '\'' ∉ Text.decimal n := (Text.writes_decimal n).not_mem rfl
  simp [numbered, h.quote, hdecimal]

theorem idText?_int (n : Nat) : idText? (.int n) = some (String.ofList (Text.decimal n)) := by
  change some (String.ofList (Json.compact (.int n))) = _
  rw [Json.compact]
  rfl

/-- Data that follows the protocol says the same as the first line. -/
theorem content_of {h : Header} {payload : Option Json} (hmethod : h.method = numbered name n)
    (hkind : h.kind = exchangeKind answer) (hname : IsMethod name)
    (hdata : Follows answer n payload) :
    (Content.of h payload).id = some (String.ofList (Text.decimal n)) ∧
      (Content.of h payload).kind = exchangeKind answer := by
  have hsplit : methodId? h.method = some (Text.decimal n) := by
    rw [methodId?, hmethod, splitMethod?_numbered hname.number, Option.map_some]
  cases payload with
  | none => simp [Content.of, hsplit, hkind]
  | some j =>
    by_cases hprotocol : (j.member? "jsonrpc").isSome = true
    · obtain ⟨hid, hanswer⟩ := hdata hprotocol
      simp [Content.of, hprotocol, hid, hanswer, idText?_int, exchangeKind]
    · simp [Content.of, hprotocol, hsplit, hkind]

theorem markedId_sideLog (log : String) (sending answer : Bool) (n : Nat) :
    markedId (sideLog log sending) (exchangeKind answer) (some (String.ofList (Text.decimal n))) =
      some (exchangeId (sending == answer) n) := by
  rw [markedId, isServerLog_sideLog]
  cases sending <;> cases answer <;> rfl

/-- **The id of a request or an answer.** -/
theorem exists_record_lines (hd : d.Fit answer n) (hname : IsMethod name) (sending : Bool)
    (log : String) (prev : Option Instant) :
    ∃ r, parseMessage? log prev (d.lines sending answer name n) = some r ∧
      r.id = if String.ofList name = cancelMethod then
          ((root? (payload? d.following)).bind (·.member? "id")).bind idText?
        else some (exchangeId (sending == answer) n) := by
  have hread := read?_headerLine sending (exchangeKind_mem_kinds answer) hd.bracket
    (hname.not_mem_numbered n) hd.feed
  obtain ⟨r, hr, hid⟩ := exists_record log prev (startsMessage_headerLine sending) hread hd.stamp
    d.following
  refine ⟨r, hr, hid.trans ?_⟩
  rw [tracedId, methodName, splitMethod?_numbered hname.number]
  simp only [Option.map_some, Option.getD_some]
  split
  · rfl
  · obtain ⟨hid, hkind⟩ := content_of (h := ⟨d.time, sending, exchangeKind answer, numbered name n,
      dropSpaces d.tail⟩) rfl rfl hname hd.data
    rw [hid, hkind, markedId_sideLog]

/-- **Requests and answers belong together by their ids.** An answer has the id of its request,
whichever side writes the trace, and no request of one side has the id of one of the other. Where
the method cancels a request, the id is the one that the data names. -/
theorem exchange_ids (hname : IsMethod name) (log : String) (prev prev' : Option Instant) :
    (String.ofList name ≠ cancelMethod →
      (∀ n (request answer : Details) sending, request.Fit false n → answer.Fit true n →
        ∃ r a, parseMessage? log prev (request.lines sending false name n) = some r ∧
          parseMessage? log prev' (answer.lines (!sending) true name n) = some a ∧
          r.id.isSome = true ∧ a.id = r.id) ∧
      ∀ name' m n (own other : Details), IsMethod name' → String.ofList name' ≠ cancelMethod →
        own.Fit false m → other.Fit false n →
        ∃ r s, parseMessage? log prev (own.lines true false name m) = some r ∧
          parseMessage? log prev' (other.lines false false name' n) = some s ∧ r.id ≠ s.id) ∧
    (String.ofList name = cancelMethod → ∀ n answer (d : Details) sending, d.Fit answer n →
      ∃ r, parseMessage? log prev (d.lines sending answer name n) = some r ∧
        r.id = ((root? (payload? d.following)).bind (·.member? "id")).bind idText?) := by
  refine ⟨fun hne => ⟨?_, ?_⟩, ?_⟩
  · intro n request answer sending hrequest hanswer
    obtain ⟨r, hr, hid⟩ := exists_record_lines hrequest hname sending log prev
    obtain ⟨a, ha, hid'⟩ := exists_record_lines hanswer hname (!sending) log prev'
    rw [if_neg hne] at hid hid'
    refine ⟨r, a, hr, ha, by rw [hid]; rfl, ?_⟩
    rw [hid, hid']
    cases sending <;> rfl
  · intro name' m n own other hname' hne' hown hother
    obtain ⟨r, hr, hid⟩ := exists_record_lines hown hname true log prev
    obtain ⟨s, hs, hid'⟩ := exists_record_lines hother hname' false log prev'
    rw [if_neg hne] at hid
    rw [if_neg hne'] at hid'
    refine ⟨r, s, hr, hs, ?_⟩
    rw [hid, hid']
    exact fun heq => exchangeId_ne m n (Option.some.inj heq)
  · intro hcancel n answer d sending hd
    obtain ⟨r, hr, hid⟩ := exists_record_lines hd hname sending log prev
    rw [if_pos hcancel] at hid
    exact ⟨r, hr, hid⟩

/-! ## Some messages -/

/-- A message with one line of data. -/
def withData (data : String) : Details := ⟨"9:43:06 PM".toList, ['.'], [data.toList]⟩

theorem fit_withData {data : String} (h : Follows answer n (payload? [data.toList])) :
    (withData data).Fit answer n where
  bracket := (by decide : ']' ∉ "9:43:06 PM".toList)
  stamp := (by decide +kernel : (readStamp? "9:43:06 PM".toList).isSome = true)
  feed := (by decide : '\n' ∉ ['.'])
  data := h

/-- The method of the messages about what the mouse is over. -/
def hover : List Char := "textDocument/hover".toList

/-- A request with plain data. -/
def plainRequest : Details := withData "Params: \x7b\"line\": 1\x7d"

/-- An answer to request 12 that names its protocol. -/
def protocolAnswer (result : String) : Details :=
  withData ("\x7b\"jsonrpc\": \"2.0\", \"id\": 12, \"result\": " ++ result ++ "\x7d")

/-- Request 7 is cancelled. -/
def cancelSeven : Details := withData "Params: \x7b\"id\": 7\x7d"

theorem isMethod_hover : IsMethod hover := ⟨by decide, by decide⟩

theorem isMethod_cancelMethod : IsMethod cancelMethod.toList := ⟨by decide, by decide⟩

theorem exchange_ids_hover :
    (∃ r a, parseMessage? defaultLog none (plainRequest.lines true false hover 12) = some r ∧
      parseMessage? defaultLog none ((protocolAnswer "true").lines false true hover 12) = some a ∧
      r.id.isSome = true ∧ a.id = r.id) ∧
    (∃ r s, parseMessage? defaultLog none (plainRequest.lines true false hover 12) = some r ∧
      parseMessage? defaultLog none (plainRequest.lines false false hover 12) = some s ∧
      r.id ≠ s.id) ∧
    ∃ r, parseMessage? defaultLog none (cancelSeven.lines true false cancelMethod.toList 5) =
        some r ∧ r.id = some "7" := by
  have hrequest : plainRequest.Fit false 12 := fit_withData (by decide +kernel)
  have hanswer : (protocolAnswer "true").Fit true 12 := fit_withData (by decide +kernel)
  have hcancel : cancelSeven.Fit false 5 := fit_withData (by decide +kernel)
  obtain ⟨hanswered, hsides⟩ := (exchange_ids isMethod_hover defaultLog none none).1 (by decide)
  have hseven := (exchange_ids isMethod_cancelMethod defaultLog none none).2 (by decide)
  obtain ⟨r, hr, hid⟩ := hseven 5 false cancelSeven true hcancel
  refine ⟨hanswered 12 plainRequest _ true hrequest hanswer,
    hsides hover 12 12 plainRequest _ isMethod_hover (by decide) hrequest hrequest,
    r, hr, hid.trans ?_⟩
  decide +kernel

theorem exists_id_ne {log : String} {lines lines' : List Line} (id id' : Option String)
    (h : (parseMessage? log none lines).map Record.id = some id)
    (h' : (parseMessage? log none lines').map Record.id = some id') (hne : id' ≠ id) :
    ∃ r a, parseMessage? log none lines = some r ∧ parseMessage? log none lines' = some a ∧
      a.id ≠ r.id := by
  obtain ⟨r, hr, rfl⟩ := Option.map_eq_some_iff.1 h
  obtain ⟨a, ha, rfl⟩ := Option.map_eq_some_iff.1 h'
  exact ⟨r, a, hr, ha, hne⟩

/-- Answers with other ids than their requests: one with the method that cancels requests, and one
with `null` for its result. -/
theorem exchange_ids_differ :
    (∃ r a, parseMessage? defaultLog none (cancelSeven.lines true false cancelMethod.toList 5) =
        some r ∧
      parseMessage? defaultLog none ((withData "Result: true").lines false true
        cancelMethod.toList 5) = some a ∧ a.id ≠ r.id) ∧
    ∃ r a, parseMessage? defaultLog none (plainRequest.lines true false hover 12) = some r ∧
      parseMessage? defaultLog none ((protocolAnswer "null").lines false true hover 12) = some a ∧
      a.id ≠ r.id := by
  constructor
  · exact exists_id_ne (some "7") none (by decide +kernel) (by decide +kernel) nofun
  · exact exists_id_ne (some "12") (some "s#12") (by decide +kernel) (by decide +kernel) (by decide)

end Logbook.Trace
