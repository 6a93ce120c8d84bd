import Logbook.Proofs.Message.Midnights
import Logbook.Proofs.Session.Calendar

/-!
# Logs without dates in a session

A session that reads a log moves its undated times onto its earliest date. A log without dates may
still have times in 1971, when it has passed enough midnights; these count as dated, so that the
times before them move behind them.

* `inOrder_reconcileTimes_iff`: times that move stay in order just when all of them are in 1970;
* **`inOrder_load_iff`**: so the records of a log without dates are in order just when it passes
  fewer than 365 midnights;
* `nights`: a log that passes any number of them.
-/

namespace Logbook

variable {own : List (Option Instant)}

/-- The last time of 1970 moves on by a year, past the first time of 1971. -/
theorem not_inOrder_reconcileTimes (hclock : ∀ t, some t ∈ own → t.day = 0)
    (hm : 365 ≤ midnights own.reduceOption) : ¬ InOrder own (reconcileTimes (filledTimes own)) := by
  intro h
  obtain ⟨i, u, v, hstamped, hlen, hu, hv, huday, hvday⟩ := exists_turn_of_year hclock hm
  have hundated : u.isUndated = true := by rw [Instant.isUndated_iff]; omega
  have hdated : v.isUndated = false := by rw [Instant.isUndated_eq_false_iff]; omega
  have hvmem : v ∈ (filledTimes own).reduceOption :=
    List.reduceOption_mem_iff.mpr (List.mem_of_getElem? hv)
  obtain ⟨e, he⟩ := exists_isEarliestDate hvmem hdated
  -- No time is before 1970, so the earliest date is of the first day of 1971.
  have heday : e.day = 365 := by
    have hle := Instant.day_le_day (he.le v hvmem hdated)
    have hnonneg := day_nonneg_of_mem_carriedFrom hclock (fun p hp => absurd hp (by simp))
      (mem_carriedFrom_of_mem_filledTimes (List.reduceOption_mem_iff.mp he.mem))
    have hfar := (Instant.isUndated_eq_false_iff e).mp he.dated
    omega
  have hroom : u.millis + e.day * dayMillis ≤ lastMillis := by
    rw [heday]
    unfold Instant.day dayMillis lastMillis at *
    omega
  have hback : (u.anchor (e.day * dayMillis)).day ≤ (v.anchor (e.day * dayMillis)).day := by
    rw [reconcileTimes, dateOffset?_eq_some.mpr ⟨e, he, rfl⟩] at h
    obtain ⟨a, b, ha, hb, hab⟩ := h i (i + 1) hstamped (Nat.le_succ i) hlen
    rw [List.getElem?_map, hu, Option.map_some, Option.map_some] at ha
    rw [List.getElem?_map, hv, Option.map_some, Option.map_some] at hb
    obtain rfl := Option.some.inj (Option.some.inj ha)
    obtain rfl := Option.some.inj (Option.some.inj hb)
    exact Instant.day_le_day hab
  rw [Instant.day_anchor hundated hroom, Instant.anchor_of_dated hdated] at hback
  omega

/-- **Times that move stay in order** just when fewer than 365 midnights have passed. -/
theorem inOrder_reconcileTimes_iff (hclock : ∀ t, some t ∈ own → t.day = 0) :
    InOrder own (reconcileTimes (filledTimes own)) ↔ midnights own.reduceOption < 365 := by
  constructor
  · intro h
    by_contra hm
    exact not_inOrder_reconcileTimes hclock (Nat.not_lt.mp hm) h
  · intro hm
    have hnone : dateOffset? (filledTimes own).reduceOption = none := by
      rw [dateOffset?_eq_none]
      intro t ht
      exact isUndated_of_mem_filledTimes hclock hm (List.reduceOption_mem_iff.mp ht)
    rw [reconcileTimes, hnone]
    exact inOrder_filledTimes hclock (Nat.le_of_lt hm)

theorem map_time_load (view : ViewDefaults) (path text : String) :
    (Session.ofReadings view [.file path text]).records.map Record.time =
      reconcileTimes (filledTimes (stamps (logName path) text)) := by
  rw [Session.map_time_ofReadings_singleton, Session.map_time_file, stamps_eq]

/-! ## Any number of midnights -/

/-- A log that tells two and one o'clock in turn, and so passes so many midnights. -/
def nights (n : Nat) : String :=
  String.ofList (List.replicate n ("[02:00:00]\n[01:00:00]".toList ++ ['\n'])).flatten

theorem stamps_nights (log : String) (n : Nat) : stamps log (nights n) =
    (List.replicate n [some ⟨7200000, by decide⟩, some ⟨3600000, by decide⟩]).flatten := by
  have hnight : ((Text.lines "[02:00:00]\n[01:00:00]".toList).filter startsMessage).map stampOf =
      [some ⟨7200000, by decide⟩, some ⟨3600000, by decide⟩] := by decide +kernel
  have hempty : startsMessage [] = false := by decide
  rw [stamps_eq, nights, String.toList_ofList, Text.lines_flatten_replicate, List.filter_append,
    List.filter_cons_of_neg (ne_true_of_eq_false hempty), List.filter_nil, List.append_nil,
    List.filter_flatten, List.map_replicate, List.map_flatten, List.map_replicate, hnight]

theorem day_of_mem_nights {log : String} {n : Nat} {t : Instant}
    (h : some t ∈ stamps log (nights n)) :
    t.day = 0 := by
  rw [stamps_nights] at h
  obtain ⟨night, hnight, ht⟩ := List.mem_flatten.mp h
  rw [List.eq_of_mem_replicate hnight] at ht
  rcases List.mem_pair.mp ht with ht | ht
  · rw [Option.some.inj ht]; decide
  · rw [Option.some.inj ht]; decide

theorem midnights_nights (log : String) (n : Nat) :
    midnights (stamps log (nights n)).reduceOption = n := by
  rw [stamps_nights]
  change midnights (List.filterMap id (List.replicate n _).flatten) = n
  rw [List.filterMap_flatten, List.map_replicate]
  exact midnights_flatten_replicate (by decide) n

/-! ## Order -/

/-- **The records of a log without dates are in order** just when it passes fewer than 365
midnights. A stamp without a date means an instant of the first of January 1970. -/
theorem inOrder_load_iff (view : ViewDefaults) (path text : String)
    (hclock : ∀ t, some t ∈ stamps (logName path) text → t.day = 0) :
    InOrder (stamps (logName path) text)
        ((Session.ofReadings view [.file path text]).records.map Record.time) ↔
      midnights (stamps (logName path) text).reduceOption < 365 := by
  rw [map_time_load]
  exact inOrder_reconcileTimes_iff hclock

/-- After 364 midnights the records are in order. -/
theorem inOrder_load_nights :
    (∀ t, some t ∈ stamps (logName "clock.log") (nights 364) → t.day = 0) ∧
      InOrder (stamps (logName "clock.log") (nights 364))
        ((Session.ofReadings {} [.file "clock.log" (nights 364)]).records.map Record.time) := by
  have hclock : ∀ t, some t ∈ stamps (logName "clock.log") (nights 364) → t.day = 0 :=
    fun _ ht => day_of_mem_nights ht
  refine ⟨hclock, (inOrder_load_iff {} "clock.log" (nights 364) hclock).mpr ?_⟩
  rw [midnights_nights]
  decide

/-- **A whole year of midnights** breaks the order, although no stamp has a date. -/
theorem not_inOrder_load_nights :
    (∀ t, some t ∈ stamps (logName "clock.log") (nights 365) → t.day = 0) ∧
      ¬ InOrder (stamps (logName "clock.log") (nights 365))
        ((Session.ofReadings {} [.file "clock.log" (nights 365)]).records.map Record.time) := by
  refine ⟨fun _ ht => day_of_mem_nights ht, ?_⟩
  rw [map_time_load]
  refine not_inOrder_reconcileTimes (fun _ ht => day_of_mem_nights ht) ?_
  rw [midnights_nights]

end Logbook
