import Mathlib.Data.List.Forall2
import Logbook.Proofs.Message.Traces

/-!
# The name of a log

What is read of a log does not depend on its name. A trace renames the log of its message for the
side that the message came from, and whether that is the server is then asked of the new name, in
which the side stands at the end whatever stands in front of it.

* `Renamed`: records of the same message in logs of two names;
* `renamed_reading`, `renamed_parseMessage?`: one message;
* `renamed_parseBlocks`: message after message, with the time that is carried on;
* **`renamed_parseLog`**: the records of a log under two names.
-/

namespace Logbook

open Trace (sideLog markedId tracedId)

/-- **Records of the same message** in logs of two names. They agree in all but the log: that is the
one that was read or, where the message is a trace, one side of it, the same for both names. -/
structure Renamed (log log' : String) (r s : Record) : Prop where
  fields : s = { r with log := s.log }
  logs : (r.log = log ∧ s.log = log') ∨
    ∃ sending, r.log = sideLog log sending ∧ s.log = sideLog log' sending

variable {log log' : String}

theorem Renamed.time {r s : Record} (h : Renamed log log' r s) : r.time = s.time := by
  rw [h.fields]

theorem Renamed.withTime {r s : Record} (h : Renamed log log' r s) {t t' : Option Instant}
    (ht : t = t') : Renamed log log' { r with time := t } { s with time := t' } where
  fields := by rw [h.fields, ht]
  logs := h.logs

/-! ## One message -/

/-- The side that a log is renamed for decides the id, not the name in front of it. -/
theorem tracedId_congr (log log' : String) (h : Trace.Header) (payload : Option Json) :
    tracedId log h payload = tracedId log' h payload := by
  unfold tracedId markedId
  rw [Trace.isServerLog_sideLog, Trace.isServerLog_sideLog]

theorem renamed_reading (log log' : String) (first : Line) (following : List Line) :
    Renamed log log' (reading log first following).1 (reading log' first following).1 ∧
      (reading log first following).2 = (reading log' first following).2 := by
  unfold reading
  split
  · exact ⟨⟨rfl, .inl ⟨rfl, rfl⟩⟩, rfl⟩
  · next h t _ =>
    refine ⟨⟨?_, .inr ⟨h.sending, rfl, rfl⟩⟩, rfl⟩
    unfold Trace.traced
    simp only [untraced, tracedId_congr log log']

theorem renamed_parseMessage? (log log' : String) (prev : Option Instant) (lines : List Line) :
    Option.Rel (Renamed log log') (parseMessage? log prev lines)
      (parseMessage? log' prev lines) := by
  cases lines with
  | nil => exact .none
  | cons first following =>
    rw [parseMessage?, parseMessage?, readMessage?_cons, readMessage?_cons]
    by_cases hfirst : startsMessage first = true
    · obtain ⟨hrecord, hstamp⟩ := renamed_reading log log' first following
      rw [if_pos hfirst, if_pos hfirst]
      exact .some (hrecord.withTime (congrArg (timeAfter prev) hstamp))
    · rw [if_neg hfirst, if_neg hfirst]
      exact .none

/-! ## The records of a log -/

/-- The times that are carried from message to message are the same under both names. -/
theorem renamed_parseBlocks (log log' : String) (prev : Option Instant) (bs : List (List Line)) :
    List.Forall₂ (Renamed log log') (parseBlocks log prev bs).1 (parseBlocks log' prev bs).1 ∧
      (parseBlocks log prev bs).2 = (parseBlocks log' prev bs).2 := by
  induction bs generalizing prev with
  | nil => exact ⟨.nil, rfl⟩
  | cons b bs ih =>
    have hrel := renamed_parseMessage? log log' prev b
    unfold parseBlocks
    cases hb : parseMessage? log prev b with
    | none =>
      rw [hb] at hrel
      generalize parseMessage? log' prev b = o at hrel
      cases hrel
      exact ih prev
    | some r =>
      rw [hb] at hrel
      generalize parseMessage? log' prev b = o at hrel
      cases hrel with
      | @some _ s hrs =>
        obtain ⟨hrecords, hlast⟩ := ih (r.time.or prev)
        simp only [← hrs.time]
        exact ⟨.cons hrs hrecords, hlast⟩

/-- **The name of a log does not matter.** Under any two names a text gives as many records, and at
each place records of the same message. -/
theorem renamed_parseLog (log log' text : String) :
    List.Forall₂ (Renamed log log') (parseLog log text) (parseLog log' text) := by
  obtain ⟨hrecords, hlast⟩ := renamed_parseBlocks log log' none (blocks (Text.lines text.toList))
  unfold parseLog parseLines
  rw [List.forall₂_map_left_iff, List.forall₂_map_right_iff]
  refine hrecords.imp fun r s hrs => hrs.withTime ?_
  rw [hrs.time, hlast]

end Logbook
