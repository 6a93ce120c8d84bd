import Mathlib.Data.List.Infix
import Logbook.Proofs.Message.Readings
import Logbook.Proofs.Text.Numerals

/-!
# The lines of traces

* `Trace.headerLine`, `Trace.read?_headerLine`: the first line of a trace, and that it is read back;
* `Trace.withId`, `Trace.numbered`, `Trace.splitMethod?_withId`: a method with an id or with a
  number, and that both are found again;
* `Trace.isServerLog_sideLog`: the side that a log is named for;
* **`Trace.exists_record`**: the record of such a line, with the id that the trace gives it.
-/

namespace Logbook.Trace

/-! ## First lines -/

/-- The word for the direction of a message. -/
def direction (sending : Bool) : String := if sending then "Sending" else "Received"

/-- The words for the kind of a message. -/
def kinds : List String := ["request", "response", "notification"]

/-- The first line of a trace; `tail` is what stands behind the quoted method. -/
def headerLine (time : List Char) (sending : Bool) (kind : String) (method tail : List Char) :
    Line :=
  "[Trace - ".toList ++ (time ++ ']' :: ' ' :: ((direction sending).toList ++ ' ' ::
    (kind.toList ++ ' ' :: '\'' :: (method ++ '\'' :: tail))))

theorem after?_append (p cs : List Char) : after? p (p ++ cs) = some cs := by
  have h : p.isPrefixOf (p ++ cs) = true := List.isPrefixOf_iff_prefix.2 (List.prefix_append p cs)
  rw [after?, if_pos h, List.drop_left]

theorem word?_direction (sending : Bool) (cs : List Char) :
    word? ["Sending", "Received"] ((direction sending).toList ++ cs) =
      some (direction sending, cs) := by
  cases sending <;> rfl

theorem word?_kinds {kind : String} (h : kind ∈ kinds) (cs : List Char) :
    word? kinds (kind.toList ++ cs) = some (kind, cs) := by
  rcases h with _ | ⟨_, _ | ⟨_, _ | ⟨_, ⟨⟩⟩⟩⟩ <;> rfl

variable {time method tail : List Char} {kind : String}

/-- **A first line is read back.** -/
theorem read?_headerLine (sending : Bool) (hkind : kind ∈ kinds) (htime : ']' ∉ time)
    (hmethod : '\'' ∉ method) (htail : '\n' ∉ tail) :
    Header.read? (headerLine time sending kind method tail) =
      some ⟨time, sending, kind, method, dropSpaces tail⟩ := by
  have hopen := after?_append "[Trace - ".toList
  have hclose : ∀ cs, after? "] ".toList (']' :: ' ' :: cs) = some cs := after?_append [']', ' ']
  have hspace : ∀ cs, after? [' '] (' ' :: cs) = some cs := after?_append [' ']
  have hquote : ∀ cs, after? " '".toList (' ' :: '\'' :: cs) = some cs := after?_append [' ', '\'']
  have hunquote : ∀ cs, after? ['\''] ('\'' :: cs) = some cs := after?_append ['\'']
  have hdirection : (direction sending == "Sending") = sending := by cases sending <;> rfl
  have hword := word?_kinds hkind
  have htime := Text.takeWhile_dropWhile_ne htime
  have hmethod := Text.takeWhile_dropWhile_ne hmethod
  have hbody : (dropSpaces tail).contains '\n' = false := by
    unfold dropSpaces
    simpa using fun hmem => htail ((List.dropWhile_suffix _).mem hmem)
  rw [kinds] at hword
  unfold Header.read? headerLine
  simp only [Option.bind_eq_bind, Option.bind_some, hopen, (htime _).1, (htime _).2, hclose,
    word?_direction, hspace, hword, hquote, (hmethod _).1, (hmethod _).2, hunquote, hbody,
    hdirection]
  rfl

theorem startsMessage_headerLine (sending : Bool) :
    startsMessage (headerLine time sending kind method tail) = true := rfl

/-! ## Methods with an id -/

/-- A method with an id behind it. -/
def withId (name id : List Char) : List Char := name ++ ' ' :: '-' :: ' ' :: '(' :: (id ++ [')'])

/-- A method with the number of its request. -/
def numbered (name : List Char) (n : Nat) : List Char :=
  name ++ ' ' :: '-' :: ' ' :: '(' :: (Text.decimal n ++ [')'])

theorem closedId?_of_feed {id : List Char} (h : '\n' ∉ id) : closedId? (id ++ [')']) = some id := by
  rw [closedId?, List.getLast?_concat, List.dropLast_concat]
  simp [h]

theorem splitMethod?_cons {c : Char} {rest : List Char} (h : ¬ " - (".toList <+: c :: rest) :
    splitMethod? (c :: rest) = (splitMethod? rest).map fun (name, id) => (c :: name, id) := by
  have hnone : after? " - (".toList (c :: rest) = none :=
    if_neg fun hp => h (List.isPrefixOf_iff_prefix.1 hp)
  rw [splitMethod?, hnone]
  rfl

theorem not_opens_withId {name : List Char} (hne : name ≠ []) (h : ¬ " - (".toList <:+: name)
    (id : List Char) : ¬ " - (".toList <+: withId name id := by
  have hopen : " - (".toList = [' ', '-', ' ', '('] := rfl
  rw [hopen] at h ⊢
  intro hp
  -- a name of one to three characters would have to end as `" - ("` begins
  rcases name with _ | ⟨a, _ | ⟨b, _ | ⟨c, _ | ⟨d, name⟩⟩⟩⟩
  · exact hne rfl
  · simp [withId, List.cons_prefix_cons] at hp
  · simp [withId, List.cons_prefix_cons] at hp
  · simp [withId, List.cons_prefix_cons] at hp
  · simp only [withId, List.cons_append, List.cons_prefix_cons] at hp
    obtain ⟨rfl, rfl, rfl, rfl, -⟩ := hp
    exact h (List.prefix_append [' ', '-', ' ', '('] name).isInfix

/-- **Both parts of a method are found again.** -/
theorem splitMethod?_withId {name id : List Char} (h : ¬ " - (".toList <:+: name)
    (hid : '\n' ∉ id) :
    splitMethod? (withId name id) = some (name, id) := by
  induction name with
  | nil =>
    have hopen : after? " - (".toList (withId [] id) = some (id ++ [')']) :=
      after?_append [' ', '-', ' ', '('] _
    rw [withId, List.nil_append] at hopen ⊢
    rw [splitMethod?, hopen, Option.bind_some, closedId?_of_feed hid]
  | cons c name ih =>
    have hrest := ih fun hpart => h (hpart.trans (List.suffix_cons c name).isInfix)
    have hnone := not_opens_withId (List.cons_ne_nil c name) h id
    rw [withId, List.cons_append] at hnone ⊢
    rw [splitMethod?_cons hnone, ← withId, hrest]
    rfl

theorem splitMethod?_numbered {name : List Char} (h : ¬ " - (".toList <:+: name) (n : Nat) :
    splitMethod? (numbered name n) = some (name, Text.decimal n) :=
  splitMethod?_withId h ((Text.writes_decimal n).not_mem rfl)

/-! ## Sides -/

theorem getLast?_of_isServerLog {log : String} (h : isServerLog log = true) :
    log.toList.getLast? = some 'r' := by
  rcases Bool.or_eq_true_iff.1 h with h | h
  · rw [beq_iff_eq.1 h]
    rfl
  · obtain ⟨front, hfront⟩ := List.isSuffixOf_iff_suffix.1 h
    rw [← hfront, List.getLast?_append]
    rfl

theorem isServerLog_sideLog (log : String) (sending : Bool) :
    isServerLog (sideLog log sending) = !sending := by
  cases sending with
  | true =>
    refine Bool.eq_false_iff.2 fun hserver => ?_
    have hlast := getLast?_of_isServerLog hserver
    by_cases hlog : log = defaultLog
    · simp [sideLog, hlog] at hlast
    · simp [sideLog, hlog, List.getLast?_append] at hlast
  | false =>
    by_cases hlog : log = defaultLog <;> simp [sideLog, hlog, isServerLog]

/-! ## Records -/

/-- **The record of a trace** and its id. -/
theorem exists_record (log : String) (prev : Option Instant) {first : Line} {h : Header}
    (hfirst : startsMessage first = true) (hread : Header.read? first = some h)
    (hstamp : (readStamp? h.time).isSome = true) (following : List Line) :
    ∃ r, parseMessage? log prev (first :: following) = some r ∧
      r.id = tracedId log h (payload? following) := by
  obtain ⟨t, ht⟩ := Option.isSome_iff_exists.1 hstamp
  have hopen : opening? first = some (h, t) := by
    rw [opening?, hread, Option.bind_some, ht, Option.map_some]
  rw [parseMessage?, readMessage?_cons, if_pos hfirst, reading_of_some hopen]
  exact ⟨_, rfl, rfl⟩

end Logbook.Trace
