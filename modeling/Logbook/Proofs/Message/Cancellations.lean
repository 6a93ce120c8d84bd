import Logbook.Proofs.Json.Grammar
import Logbook.Proofs.Keyed
import Logbook.Proofs.Message.Exchanges

/-!
# Cancelled requests

The side that made a request cancels it by a notification, whose data names the number of the
request. The id of the notification is that number, without the mark that the id of a request has
which the server made.

* `Trace.Names`: data that names a number, plainly or in the parameters of its protocol;
* `Trace.Details.Asks`, `Trace.Details.Cancels`: requests and cancellations that can be read;
* `Trace.requestId`, `Trace.exists_request`, `Trace.exists_cancellation`: the ids of both;
* `Trace.names_plainData`, `Trace.names_protocolData`: both ways to write the data;
* **`Trace.cancellation_ids`**: whichever side cancels, its message has the id of a request of the
  client.
-/

namespace Logbook.Trace

open Json

/-! ## Messages -/

/-- **Data that names a number**: for its id or, where it names its protocol, for the id in its
parameters. -/
inductive Names (v : Json) : Json → Prop where
  | plain {j : Json} (hprotocol : j.member? "jsonrpc" = none) (hid : j.member? "id" = some v) :
    Names v j
  | protocol {j params : Json} (hprotocol : (j.member? "jsonrpc").isSome = true)
    (hparams : j.member? "params" = some params) (hid : params.member? "id" = some v) : Names v j

/-- A message with a time stamp. -/
structure Details.Stamped (d : Details) : Prop where
  bracket : ']' ∉ d.time
  stamp : (readStamp? d.time).isSome = true
  feed : '\n' ∉ d.tail

/-- A request with the number `n`. If its data names its protocol, it has the number for its id, and
neither a result nor an error. -/
structure Details.Asks (d : Details) (n : Int) : Prop extends d.Stamped where
  data : ∀ j, payload? d.following = some j → (j.member? "jsonrpc").isSome = true →
    j.member? "id" = some (.int n) ∧ (hasMember "result" j || hasMember "error" j) = false

/-- A notification with data that names `v`. -/
structure Details.Cancels (d : Details) (v : Json) : Prop extends d.Stamped where
  data : ∃ j, payload? d.following = some j ∧ Names v j

/-- The lines of a request, sent by the client or by the server. -/
def Details.requestLines (d : Details) (client : Bool) (name : List Char) (n : Int) : List Line :=
  headerLine d.time client "request" (withId name (Text.signed n)) d.tail :: d.following

/-- The lines of a notification of the client or of the server that cancels a request. -/
def Details.cancelLines (d : Details) (client : Bool) : List Line :=
  headerLine d.time client "notification" cancelMethod.toList d.tail :: d.following

/-! ## Ids -/

/-- The id of the request of one side with a number. -/
def requestId (client : Bool) (n : Int) : String :=
  if client then String.ofList (Text.signed n) else "s#" ++ String.ofList (Text.signed n)

variable {d : Details}

/-- **The id of a request.** -/
theorem exists_request {n : Int} (hd : d.Asks n) {name : List Char} (hname : IsMethod name)
    (hne : String.ofList name ≠ cancelMethod) (client : Bool) (log : String)
    (prev : Option Instant) :
    ∃ r, parseMessage? log prev (d.requestLines client name n) = some r ∧
      r.id = some (requestId client n) := by
  have hminus : ∀ {c : Char}, c ≠ '-' → c.isDigit = false → c ∉ Text.signed n := by
    intro c hc hdigit hmem
    rcases Text.mem_signed hmem with h | h
    · exact hc h
    · rw [hdigit] at h
      cases h
  have hquote : '\'' ∉ withId name (Text.signed n) := by
    simp [withId, hname.quote, hminus (c := '\'') (by decide) rfl]
  have hsplit : splitMethod? (withId name (Text.signed n)) = some (name, Text.signed n) :=
    splitMethod?_withId hname.number (hminus (by decide) rfl)
  have hkind : "request" ∈ kinds := by decide
  have hread := read?_headerLine client hkind hd.bracket hquote hd.feed
  obtain ⟨r, hr, hid⟩ := exists_record log prev (startsMessage_headerLine client) hread hd.stamp
    d.following
  refine ⟨r, hr, hid.trans ?_⟩
  have hcontent : (Content.of ⟨d.time, client, "request", withId name (Text.signed n),
      dropSpaces d.tail⟩ (payload? d.following)).id = some (String.ofList (Text.signed n)) ∧
      (Content.of ⟨d.time, client, "request", withId name (Text.signed n), dropSpaces d.tail⟩
        (payload? d.following)).kind = "request" := by
    cases hpayload : payload? d.following with
    | none => simp [Content.of, methodId?, hsplit]
    | some j =>
      by_cases hprotocol : (j.member? "jsonrpc").isSome = true
      · obtain ⟨hj, hanswer⟩ := hd.data j hpayload hprotocol
        simp [Content.of, hprotocol, hj, hanswer, idText?, compact]
      · simp [Content.of, hprotocol, methodId?, hsplit]
  rw [tracedId, methodName, hsplit, Option.map_some, Option.getD_some, if_neg hne, hcontent.1,
    hcontent.2, markedId, isServerLog_sideLog]
  cases client <;> rfl

/-- **The id of a cancellation** is the text of the number that its data names. -/
theorem exists_cancellation {v : Json} (hd : d.Cancels v) (client : Bool) (log : String)
    (prev : Option Instant) :
    ∃ c, parseMessage? log prev (d.cancelLines client) = some c ∧ c.id = idText? v := by
  have hkind : "notification" ∈ kinds := by decide
  have hquote : '\'' ∉ cancelMethod.toList := by decide
  have hread := read?_headerLine client hkind hd.bracket hquote hd.feed
  obtain ⟨c, hc, hid⟩ := exists_record log prev (startsMessage_headerLine client) hread hd.stamp
    d.following
  refine ⟨c, hc, hid.trans ?_⟩
  have hmethod : String.ofList (methodName cancelMethod.toList) = cancelMethod := by decide
  obtain ⟨j, hj, hnames⟩ := hd.data
  rw [tracedId, if_pos hmethod, hj]
  cases hnames with
  | plain hprotocol hid => simp [root?, hprotocol, hid]
  | protocol hprotocol hparams hid => simp [root?, hprotocol, hparams, hid]

/-! ## Numbers -/

/-- An integer or a double. -/
inductive IsNumber : Json → Prop where
  | int (n : Int) : IsNumber (.int n)
  | double (x : Float) : IsNumber (.double x)

/-- A mark that no integer is written with: a point, the letter of an exponent, or one of `null`. -/
def IsMark (c : Char) : Prop := c = '.' ∨ c = 'e' ∨ c = 'n'

theorem mem_scientific (d : Decimal) : 'e' ∈ d.scientific := by
  unfold Decimal.scientific
  refine List.mem_append_left _ (List.mem_append_right _ ?_)
  split <;> exact List.mem_cons_self

theorem exists_mem_positiveText (x : Float) : ∃ c ∈ positiveText x, IsMark c := by
  unfold positiveText
  dsimp only
  split
  · split
    · next h => exact ⟨'.', List.contains_iff_mem.1 h, .inl rfl⟩
    · exact ⟨'.', List.mem_append_right _ List.mem_cons_self, .inl rfl⟩
  · exact ⟨'e', mem_scientific _, .inr (.inl rfl)⟩

/-- No double is written like an integer. -/
theorem exists_mem_doubleText (x : Float) : ∃ c ∈ doubleText x, IsMark c := by
  unfold doubleText
  split
  · exact ⟨'n', List.mem_cons_self, .inr (.inr rfl)⟩
  · suffices h : ∃ c ∈ (if x == 0 then ['0', '.', '0'] else positiveText x.abs), IsMark c by
      obtain ⟨c, hc, hmark⟩ := h
      exact ⟨c, List.mem_append_right _ hc, hmark⟩
    split
    · exact ⟨'.', List.mem_cons_of_mem _ List.mem_cons_self, .inl rfl⟩
    · exact exists_mem_positiveText _

theorem not_isMark_of_mem_requestId {client : Bool} {n : Int} {c : Char}
    (h : c ∈ (requestId client n).toList) : ¬ IsMark c := by
  have hsigned : c ∈ Text.signed n → ¬ IsMark c := by
    rintro hc (rfl | rfl | rfl) <;> rcases Text.mem_signed hc with h | h <;> revert h <;> decide
  unfold requestId at h
  split at h
  · rw [String.toList_ofList] at h
    exact hsigned h
  · rw [String.toList_append] at h
    rcases List.mem_append.1 h with h | h
    · rintro (rfl | rfl | rfl) <;> revert h <;> decide
    · rw [String.toList_ofList] at h
      exact hsigned h

/-- The ids of the client's requests are their numbers, and the server has others. -/
theorem requestId_eq_iff {client : Bool} {m n : Int} :
    String.ofList (Text.signed n) = requestId client m ↔ client = true ∧ n = m := by
  constructor
  · intro h
    cases client with
    | true => exact ⟨rfl, Text.signed_injective (String.ofList_injective h)⟩
    | false =>
      have hlist : Text.signed n = 's' :: '#' :: Text.signed m := by
        simpa [requestId] using congrArg String.toList h
      have hs : 's' ∈ Text.signed n := hlist ▸ List.mem_cons_self
      rcases Text.mem_signed hs with hs | hs <;> cases hs
  · rintro ⟨rfl, rfl⟩
    rfl

/-- A number that is named is that of a request if its text is the id of the request. -/
theorem idText?_eq_iff {v : Json} (hv : IsNumber v) {client : Bool} {m : Int} :
    idText? v = some (requestId client m) ↔ client = true ∧ v = .int m := by
  cases hv with
  | int n =>
    have htext : idText? (.int n) = some (String.ofList (Text.signed n)) := by
      simp [idText?, compact]
    rw [htext, Option.some.injEq, requestId_eq_iff, Json.int.injEq]
  | double x =>
    have htext : idText? (.double x) = some (String.ofList (doubleText x)) := by
      simp [idText?, compact]
    rw [htext, Option.some.injEq]
    refine ⟨fun h => ?_, fun h => by cases h.2⟩
    obtain ⟨c, hc, hmark⟩ := exists_mem_doubleText x
    have hmem : c ∈ (requestId client m).toList := by
      rw [← h, String.toList_ofList]
      exact hc
    exact absurd hmark (not_isMark_of_mem_requestId hmem)

/-! ## Data -/

/-- A text between quotes, without a character that needs an escape. -/
def quotedText (s : String) : List Char := '"' :: (s.toList ++ ['"'])

/-- A member of an object as it is written. -/
def memberText (name : String) (value : List Char) : List Char :=
  quotedText name ++ ':' :: ' ' :: value

/-- The object that has the number of a request for its id. -/
def numberText (digits : List Char) : List Char :=
  '\x7b' :: (memberText "id" (digits ++ ['\x7d']))

/-- The data of a cancellation, written plainly. -/
def plainData (digits : List Char) : Line := "Params: ".toList ++ numberText digits

/-- The data of a cancellation that names its protocol. -/
def protocolData (digits : List Char) : Line :=
  '\x7b' :: memberText "jsonrpc" (quotedText "2.0" ++ ',' ::
    memberText "method" (quotedText cancelMethod ++ ',' ::
      memberText "params" (numberText digits ++ ['\x7d'])))

section

variable {room : Nat} {digits : List Char} {v : Json}

theorem space_singleton : Space [' '] := List.forall_mem_singleton.2 rfl

theorem name_quotedText {name : String} (h : name.toList.all isPlain = true) :
    Name (quotedText name) name := by
  have hname := Name.intro .nil (stringText_plain h) .nil
  rwa [List.nil_append, List.append_nil, String.ofList_toList] at hname

theorem spells_quotedText {s : String} (h : s.toList.all isPlain = true) :
    Spells room (' ' :: quotedText s) (.str s) := by
  have htext : Spells room ([' '] ++ quotedText s) (.str (String.ofList s.toList)) :=
    (Bare.text (stringText_plain h)).spells space_singleton
  rwa [String.ofList_toList] at htext

theorem members_more {k : String} {value rest : List Char} {w : Json} {ms : List (String × Json)}
    (hk : k.toList.all isPlain = true) (hvalue : Spells room (' ' :: value) w)
    (hrest : Members room rest ms) :
    Members room (memberText k (value ++ ',' :: rest)) ((k, w) :: ms) :=
  .more (name_quotedText hk) hvalue hrest

theorem members_last {k : String} {value : List Char} {w : Json}
    (hk : k.toList.all isPlain = true) (hvalue : Spells room (' ' :: value) w) :
    Members room (memberText k (value ++ ['\x7d'])) [(k, w)] :=
  .last (name_quotedText hk) hvalue

theorem bare_numberText (h : Numeral digits v) :
    Bare (room + 1) (numberText digits) (.obj [("id", v)]) :=
  .object (members_last (by decide) ((Bare.number h).spells space_singleton))

/-- The members of the data of a cancellation that names its protocol. -/
def protocolMembers (v : Json) : List (String × Json) :=
  [("jsonrpc", .str "2.0"), ("method", .str cancelMethod), ("params", .obj [("id", v)])]

theorem bare_protocolData (h : Numeral digits v) :
    Bare (room + 2) (protocolData digits) (.obj (Keyed.ofList (protocolMembers v))) := by
  have hparams : Members (room + 1) (memberText "params" (numberText digits ++ ['\x7d']))
      [("params", .obj [("id", v)])] :=
    members_last (by decide) ((bare_numberText h).spells space_singleton)
  have hmethod := members_more (k := "method") (by decide)
    (spells_quotedText (s := cancelMethod) (by decide)) hparams
  exact .object (members_more (by decide) (spells_quotedText (s := "2.0") (by decide)) hmethod)

theorem member?_protocolMembers {k : String} {w : Json} (h : (k, w) ∈ protocolMembers v) :
    (Json.obj (Keyed.ofList (protocolMembers v))).member? k = some w := by
  have hkeys : ((protocolMembers v).map Prod.fst).Nodup := by
    show ["jsonrpc", "method", "params"].Nodup
    decide
  exact (Keyed.find?_ofList_eq_some_iff hkeys).2 h

theorem payload?_singleton {line : Line} (h : line ≠ []) :
    payload? [line] = parse? (dropLabel line) := by
  have hline : line.isEmpty = false := by simpa using h
  simp [payload?, dropEmptyLines, joinLines, hline]

theorem parse?_of_bare {t : List Char} (h : Bare maxNesting t v) : parse? t = some v :=
  parse?_eq_some_iff.2 (h.spells .nil)

/-- **A cancellation names its number**, written plainly. -/
theorem names_plainData (h : Numeral digits v) :
    ∃ j, payload? [plainData digits] = some j ∧ Names v j := by
  refine ⟨_, (payload?_singleton (List.cons_ne_nil _ _)).trans (parse?_of_bare (bare_numberText h)),
    ?_⟩
  exact .plain rfl rfl

/-- **A cancellation names its number** in the parameters of its protocol. -/
theorem names_protocolData (h : Numeral digits v) :
    ∃ j, payload? [protocolData digits] = some j ∧ Names v j := by
  refine ⟨_, (payload?_singleton (List.cons_ne_nil _ _)).trans
    (parse?_of_bare (bare_protocolData h)), ?_⟩
  have hversion := member?_protocolMembers (v := v) (k := "jsonrpc") List.mem_cons_self
  have hparams : (Json.obj (Keyed.ofList (protocolMembers v))).member? "params" =
      some (.obj [("id", v)]) := member?_protocolMembers (by simp [protocolMembers])
  exact .protocol (Option.isSome_of_eq_some hversion) hparams rfl

end

/-! ## Cancellations and requests -/

/-- **Whichever side cancels, its message has the id of a request of the client.** A message that
cancels the request with some number has the id of a request just when that is a request of the
client, and the data names its number as an integer. So a cancellation of the client has the id of
the request that it cancels and of none of the server's; one of the server has not the id of the
request that it cancels, but that of the client's request with the same number. -/
theorem cancellation_ids {cancel : Details} {v : Json} (hcancel : cancel.Cancels v)
    (hv : IsNumber v) (client : Bool) (log : String) (prev : Option Instant) :
    ∃ c, parseMessage? log prev (cancel.cancelLines client) = some c ∧
      ∀ (request : Details) (m : Int) (name : List Char) (client' : Bool) (prev' : Option Instant),
        request.Asks m → IsMethod name → String.ofList name ≠ cancelMethod →
        ∃ r, parseMessage? log prev' (request.requestLines client' name m) = some r ∧
          (c.id = r.id ↔ client' = true ∧ v = .int m) := by
  obtain ⟨c, hc, hid⟩ := exists_cancellation hcancel client log prev
  refine ⟨c, hc, fun request m name client' prev' hrequest hname hne => ?_⟩
  obtain ⟨r, hr, hid'⟩ := exists_request hrequest hname hne client' log prev'
  refine ⟨r, hr, ?_⟩
  rw [hid, hid']
  exact idText?_eq_iff hv

/-- A message in the evening, with some lines of data. -/
def inEvening (following : List Line) : Details := ⟨"9:43:06 PM".toList, ['.'], following⟩

theorem stamped_inEvening (following : List Line) : (inEvening following).Stamped where
  bracket := (by decide : ']' ∉ "9:43:06 PM".toList)
  stamp := (by decide +kernel : (readStamp? "9:43:06 PM".toList).isSome = true)
  feed := (by decide : '\n' ∉ ['.'])

theorem asks_inEvening (n : Int) : (inEvening []).Asks n where
  toStamped := stamped_inEvening []
  data j hj := by
    have hnone : payload? [] = none := rfl
    cases hnone.symm.trans hj

/-- Both ways to cancel the request with a number of 64 bits. -/
theorem cancels_inEvening {n : Int} (hlow : -0x8000000000000000 ≤ n)
    (hhigh : n < 0x10000000000000000) :
    (inEvening [plainData (Text.signed n)]).Cancels (.int n) ∧
      (inEvening [protocolData (Text.signed n)]).Cancels (.int n) :=
  ⟨⟨stamped_inEvening _, names_plainData (numeral_signed hlow hhigh)⟩,
    ⟨stamped_inEvening _, names_protocolData (numeral_signed hlow hhigh)⟩⟩

/-- The client cancels its request -7, and not that of the server. -/
theorem cancellation_ids_client :
    ∃ c, parseMessage? "build" none
        ((inEvening [protocolData (Text.signed (-7))]).cancelLines true) = some c ∧
      (∃ r, parseMessage? "build" none ((inEvening []).requestLines true hover (-7)) = some r ∧
        c.id = r.id) ∧
      ∃ r, parseMessage? "build" none ((inEvening []).requestLines false hover (-7)) = some r ∧
        c.id ≠ r.id := by
  have hcancel := (cancels_inEvening (n := -7) (by decide) (by decide)).2
  have hne : String.ofList hover ≠ cancelMethod := by decide
  obtain ⟨c, hc, hids⟩ := cancellation_ids hcancel (.int (-7)) true "build" none
  obtain ⟨r, hr, hid⟩ := hids _ (-7) hover true none (asks_inEvening (-7)) isMethod_hover hne
  obtain ⟨s, hs, hid'⟩ := hids _ (-7) hover false none (asks_inEvening (-7)) isMethod_hover hne
  exact ⟨c, hc, ⟨r, hr, hid.2 ⟨rfl, rfl⟩⟩, s, hs, fun heq => Bool.false_ne_true (hid'.1 heq).1⟩

/-- The server cancels its request 3, and its message has the id of the client's request 3. -/
theorem not_cancellation_ids :
    ∃ r c s, parseMessage? defaultLog none ((inEvening []).requestLines false hover 3) = some r ∧
      parseMessage? defaultLog none ((inEvening [plainData (Text.signed 3)]).cancelLines false) =
        some c ∧
      parseMessage? defaultLog none ((inEvening []).requestLines true hover 3) = some s ∧
      c.id ≠ r.id ∧ c.id = s.id := by
  have hcancel := (cancels_inEvening (n := 3) (by decide) (by decide)).1
  have hne : String.ofList hover ≠ cancelMethod := by decide
  obtain ⟨r, hr, hid⟩ := exists_request (asks_inEvening 3) isMethod_hover hne false defaultLog none
  obtain ⟨c, hc, hid'⟩ := exists_cancellation hcancel false defaultLog none
  obtain ⟨s, hs, hid''⟩ := exists_request (asks_inEvening 3) isMethod_hover hne true defaultLog none
  have hnumber : ∀ client, c.id = some (requestId client 3) ↔ client = true ∧ _ := fun client => by
    rw [hid']
    exact idText?_eq_iff (.int 3)
  refine ⟨r, c, s, hr, hc, hs, ?_, ?_⟩
  · rw [hid]
    exact fun heq => Bool.false_ne_true ((hnumber false).1 heq).1
  · rw [hid'']
    exact (hnumber true).2 ⟨rfl, rfl⟩

end Logbook.Trace
