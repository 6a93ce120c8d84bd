import Mathlib.Data.List.ReduceOption
import Mathlib.Order.Nat
import Logbook.Proofs.Message.Times
import Logbook.Proofs.Time.Anchoring

/-!
# Midnights

Where no stamp has a date, each time that the clock goes back another midnight has passed.

* `midnights`: how often a clock goes back;
* `millis_rollPast_clock`: what one more stamp does to the day;
* `ClockTime`, **`exists_clockTime`**: a time is the last stamp so far, moved by the midnights so
  far;
* `InOrder`, `inOrder_filledTimes`: times that do not go back from the first stamp on;
* `isUndated_of_mem_filledTimes`: with fewer than 365 midnights they are all in 1970;
* **`exists_turn_of_year`**: with more of them, two neighbours are in 1970 and 1971.
-/

namespace Logbook

/-- How often a clock goes back. -/
def midnights : List Instant → Nat
  | a :: b :: rest => (if b < a then 1 else 0) + midnights (b :: rest)
  | _ => 0

theorem midnights_concat (l : List Instant) (a b : Instant) :
    midnights (l ++ [a] ++ [b]) = midnights (l ++ [a]) + if b < a then 1 else 0 := by
  induction l with
  | nil => simp [midnights]
  | cons c l ih =>
    cases l with
    | nil => simp [midnights]
    | cons d l =>
      simp only [List.cons_append, midnights] at ih ⊢
      rw [ih, Nat.add_assoc]

theorem midnights_le_append (l l' : List Instant) : midnights l ≤ midnights (l ++ l') := by
  induction l' using List.reverseRecOn with
  | nil => rw [List.append_nil]
  | append_singleton l' b ih =>
    refine Nat.le_trans ih ?_
    rw [← List.append_assoc]
    rcases List.eq_nil_or_concat (l ++ l') with hnil | ⟨init, a, hinit⟩
    · rw [hnil]
      exact Nat.zero_le _
    · rw [hinit, List.concat_eq_append, midnights_concat]
      exact Nat.le_add_right _ _

/-- A clock that goes back and forth goes back as often as it is read twice. -/
theorem midnights_flatten_replicate {a b : Instant} (h : b < a) (n : Nat) :
    midnights (List.replicate n [a, b]).flatten = n := by
  have hforth : ¬ a < b := fun hab => Int.lt_irrefl _ (Int.lt_trans hab h)
  induction n with
  | zero => rfl
  | succ n ih =>
    cases n with
    | zero => simp [midnights, h]
    | succ n =>
      simp only [List.replicate_succ, List.flatten_cons, List.cons_append, List.nil_append,
        midnights, if_pos h, if_neg hforth, Nat.zero_add] at ih ⊢
      rw [ih, Nat.add_comm]

/-! ## One stamp more -/

theorem millis_of_day_zero {t : Instant} (ht : t.day = 0) :
    0 ≤ t.millis ∧ t.millis < dayMillis := by
  unfold Instant.day dayMillis at *
  omega

theorem isUndated_of_day_zero {t : Instant} (ht : t.day = 0) : t.isUndated = true := by
  rw [Instant.isUndated_iff, ht]
  decide

/-- A stamp without a date stays on the day of the time before it, or comes a day later where the
clock has gone back. -/
theorem millis_rollPast_clock {t p c : Instant} {k : Nat} (ht : t.day = 0) (hc : c.day = 0)
    (hk : k ≤ 365) (hp : p.millis = c.millis + k * dayMillis) :
    (t.rollPast (some p)).millis =
      t.millis + ((k + if t < c then 1 else 0 : Nat) : Int) * dayMillis := by
  have htday := millis_of_day_zero ht
  have hcday := millis_of_day_zero hc
  obtain ⟨back, hdef, hback⟩ : ∃ n : Nat, (if t < c then 1 else 0) = n ∧
      (t.millis < c.millis ∧ n = 1 ∨ c.millis ≤ t.millis ∧ n = 0) := by
    by_cases hlt : t < c
    · exact ⟨1, if_pos hlt, .inl ⟨hlt, rfl⟩⟩
    · exact ⟨0, if_neg hlt, .inr ⟨Int.not_lt.mp hlt, rfl⟩⟩
  rw [hdef]
  by_cases h : p ≤ t
  · have hle : p.millis ≤ t.millis := h
    have hzero : k + back = 0 := by unfold dayMillis at *; omega
    rw [Instant.rollPast_of_le h, hzero]
    simp
  · have hgt : t.millis < p.millis := Int.not_le.mp h
    have hdays : t.daysTo p = ((k + back : Nat) : Int) := by
      unfold Instant.daysTo dayMillis at *
      omega
    have hlo : firstMillis ≤ t.millis + t.daysTo p * dayMillis :=
      Int.le_trans t.inCalendar.1 (Int.le_of_lt (Instant.lt_add_daysTo h))
    have hhi : t.millis + t.daysTo p * dayMillis ≤ lastMillis := by
      rw [hdays]
      unfold dayMillis lastMillis at *
      omega
    rw [Instant.rollPast_of_lt (isUndated_of_day_zero ht) h, Instant.add?_of_bounds hlo hhi,
      ← hdays]
    rfl

/-! ## The stamps so far -/

/-- The stamps up to a place. -/
def stampsTo (own : List (Option Instant)) (i : Nat) : List Instant :=
  (own.take (i + 1)).reduceOption

theorem stampsTo_succ_of_none {own : List (Option Instant)} {i : Nat}
    (h : own[i + 1]? = some none) :
    stampsTo own (i + 1) = stampsTo own i := by
  rw [stampsTo, List.take_add_one, h, List.reduceOption_append]
  exact List.append_nil _

theorem stampsTo_succ_of_some {own : List (Option Instant)} {i : Nat} {t : Instant}
    (h : own[i + 1]? = some (some t)) : stampsTo own (i + 1) = stampsTo own i ++ [t] := by
  rw [stampsTo, List.take_add_one, h, List.reduceOption_append]
  rfl

theorem stampsTo_succ_of_length_le {own : List (Option Instant)} {i : Nat}
    (h : own.length ≤ i + 1) : stampsTo own (i + 1) = stampsTo own i := by
  rw [stampsTo, stampsTo, List.take_of_length_le (by omega), List.take_of_length_le h]

theorem mem_stampsTo {own : List (Option Instant)} {i : Nat} {t : Instant} :
    t ∈ stampsTo own i ↔ ∃ j ≤ i, own[j]? = some (some t) := by
  rw [stampsTo, List.reduceOption_mem_iff, List.mem_iff_getElem?]
  constructor
  · rintro ⟨j, hj⟩
    rw [List.getElem?_take] at hj
    split at hj
    · exact ⟨j, by omega, hj⟩
    · exact absurd hj (by simp)
  · rintro ⟨j, hj, ht⟩
    exact ⟨j, by rw [List.getElem?_take, if_pos (by omega), ht]⟩

theorem stampsTo_ne_nil_iff {own : List (Option Instant)} {i : Nat} :
    stampsTo own i ≠ [] ↔ StampedBy own i := by
  rw [← List.length_pos_iff, List.length_pos_iff_exists_mem]
  constructor
  · rintro ⟨t, ht⟩
    obtain ⟨j, hj, hown⟩ := mem_stampsTo.mp ht
    exact ⟨j, hj, t, hown⟩
  · rintro ⟨j, hj, t, hown⟩
    exact ⟨t, mem_stampsTo.mpr ⟨j, hj, hown⟩⟩

/-- The midnights that have passed up to a place. -/
def midnightsTo (own : List (Option Instant)) (i : Nat) : Nat := midnights (stampsTo own i)

theorem midnightsTo_le (own : List (Option Instant)) (i : Nat) :
    midnightsTo own i ≤ midnights own.reduceOption := by
  conv_rhs => rw [← List.take_append_drop (i + 1) own, List.reduceOption_append]
  exact midnights_le_append _ _

theorem midnightsTo_succ_of_some {own : List (Option Instant)} {i : Nat} {init : List Instant}
    {c t : Instant} (hstamps : stampsTo own i = init ++ [c]) (h : own[i + 1]? = some (some t)) :
    midnightsTo own (i + 1) = midnightsTo own i + if t < c then 1 else 0 := by
  rw [midnightsTo, midnightsTo, stampsTo_succ_of_some h, hstamps, midnights_concat]

theorem midnightsTo_zero (own : List (Option Instant)) : midnightsTo own 0 = 0 := by
  rcases own with _ | ⟨_ | t, rest⟩ <;> rfl

/-- Each message brings one midnight or none. -/
theorem midnightsTo_succ (own : List (Option Instant)) (i : Nat) :
    midnightsTo own i ≤ midnightsTo own (i + 1) ∧
      midnightsTo own (i + 1) ≤ midnightsTo own i + 1 := by
  rcases ho : own[i + 1]? with _ | _ | t
  · rw [midnightsTo, midnightsTo, stampsTo_succ_of_length_le (List.getElem?_eq_none_iff.mp ho)]
    omega
  · rw [midnightsTo, midnightsTo, stampsTo_succ_of_none ho]
    omega
  · rcases List.eq_nil_or_concat (stampsTo own i) with hnil | ⟨init, c, hinit⟩
    · rw [midnightsTo, midnightsTo, stampsTo_succ_of_some ho, hnil]
      simp [midnights]
    · rw [midnightsTo_succ_of_some (hinit.trans List.concat_eq_append) ho]
      split <;> omega

/-! ## Times by the clock -/

/-- What the last of some stamps without a date and the midnights so far are to a time. -/
structure ClockTime (own : List (Option Instant)) (i : Nat) (u c : Instant) : Prop where
  last : ∃ init, stampsTo own i = init ++ [c]
  clock : c.day = 0
  time : (carriedFrom none own)[i]? = some (some u)
  millis : u.millis = c.millis + midnightsTo own i * dayMillis

theorem ClockTime.day {own : List (Option Instant)} {i : Nat} {u c : Instant}
    (h : ClockTime own i u c) : u.day = midnightsTo own i := by
  have hday := h.clock
  rw [Instant.day, h.millis, Int.add_mul_ediv_right _ _ (by decide)]
  unfold Instant.day at hday
  omega

variable {own : List (Option Instant)}

theorem clockTime_of_first {i : Nat} {t : Instant} (hstamps : stampsTo own i = [t]) (ht : t.day = 0)
    (htime : (carriedFrom none own)[i]? = some (some t)) : ClockTime own i t t where
  last := ⟨[], hstamps⟩
  clock := ht
  time := htime
  millis := by rw [midnightsTo, hstamps]; simp [midnights]

theorem ClockTime.succ_of_none {i : Nat} {u c : Instant} (h : ClockTime own i u c)
    (ho : own[i + 1]? = some none) : ClockTime own (i + 1) u c where
  last := by rw [stampsTo_succ_of_none ho]; exact h.last
  clock := h.clock
  time := by
    rw [carriedFrom_getElem?_succ, ho, h.time, Option.map_some, timeAfter_none, Option.getD_some]
  millis := by rw [midnightsTo, stampsTo_succ_of_none ho]; exact h.millis

theorem ClockTime.succ_of_some {i : Nat} {u c t : Instant} (h : ClockTime own i u c)
    (ho : own[i + 1]? = some (some t)) (ht : t.day = 0) (hm : midnightsTo own i ≤ 365) :
    ClockTime own (i + 1) (t.rollPast (some u)) t where
  last := ⟨stampsTo own i, stampsTo_succ_of_some ho⟩
  clock := ht
  time := by
    rw [carriedFrom_getElem?_succ, ho, h.time, Option.map_some, timeAfter_some, Option.getD_some]
  millis := by
    obtain ⟨init, hinit⟩ := h.last
    rw [millis_rollPast_clock ht h.clock hm h.millis, midnightsTo_succ_of_some hinit ho]

theorem clockTime_of_not_stampedBy {i : Nat} {t : Instant} (hstamped : ¬ StampedBy own i)
    (ho : own[i + 1]? = some (some t)) (ht : t.day = 0) : ClockTime own (i + 1) t t := by
  have hlen : i + 1 < own.length := (List.getElem?_eq_some_iff.mp ho).1
  have hprev := carriedFrom_of_not_stampedBy hstamped (by omega)
  have hnil : stampsTo own i = [] := by
    by_contra hne
    exact hstamped (stampsTo_ne_nil_iff.mp hne)
  refine clockTime_of_first ?_ ht ?_
  · rw [stampsTo_succ_of_some ho, hnil, List.nil_append]
  · rw [carriedFrom_getElem?_succ, ho, hprev, Option.map_some, timeAfter_some, Option.getD_some,
      Instant.rollPast_none]

/-- **A time is the last stamp so far**, moved by the midnights so far. -/
theorem exists_clockTime (hclock : ∀ t, some t ∈ own → t.day = 0) {i : Nat} (h : StampedBy own i)
    (hi : i < own.length) (hm : midnightsTo own i ≤ 365) : ∃ u c, ClockTime own i u c := by
  -- What is carried on is the last stamp beside the time: a midnight is told from the two stamps.
  induction i with
  | zero =>
    obtain ⟨j, hj, t, ht⟩ := h
    obtain rfl : j = 0 := Nat.le_zero.mp hj
    have hstamps : stampsTo own 0 = [t] := by
      rw [stampsTo, List.take_add_one, ht]
      rfl
    refine ⟨t, t, clockTime_of_first hstamps (hclock t (List.mem_of_getElem? ht)) ?_⟩
    rw [carriedFrom_getElem?_zero, ht, Option.map_some, timeAfter_some, Instant.rollPast_none]
  | succ i ih =>
    have hprev := (midnightsTo_succ own i).1
    have hown := List.getElem?_eq_getElem hi
    cases ho : own[i + 1] with
    | none =>
      rw [ho] at hown
      rw [← stampsTo_ne_nil_iff, stampsTo_succ_of_none hown, stampsTo_ne_nil_iff] at h
      obtain ⟨u, c, hu⟩ := ih h (by omega) (by omega)
      exact ⟨u, c, hu.succ_of_none hown⟩
    | some t =>
      rw [ho] at hown
      have ht := hclock t (List.mem_of_getElem? hown)
      by_cases hstamped : StampedBy own i
      · obtain ⟨u, c, hu⟩ := ih hstamped (by omega) (by omega)
        exact ⟨_, t, hu.succ_of_some hown ht (by omega)⟩
      · exact ⟨t, t, clockTime_of_not_stampedBy hstamped hown ht⟩

/-- From one message to the next, the time by the clock does not go back. -/
theorem ClockTime.le_succ {i : Nat} {u c u' c' : Instant} (h : ClockTime own i u c)
    (h' : ClockTime own (i + 1) u' c') : u ≤ u' := by
  obtain ⟨init, hinit⟩ := h.last
  obtain ⟨init', hinit'⟩ := h'.last
  have hi : i + 1 < own.length := by
    rw [← length_carriedFrom none own]
    exact (List.getElem?_eq_some_iff.mp h'.time).1
  have hown := List.getElem?_eq_getElem hi
  have hcday := millis_of_day_zero h.clock
  have hcday' := millis_of_day_zero h'.clock
  change u.millis ≤ u'.millis
  rw [h.millis, h'.millis]
  cases ho : own[i + 1] with
  | none =>
    have hsame := stampsTo_succ_of_none (hown.trans (congrArg some ho))
    rw [hsame, hinit] at hinit'
    obtain rfl : c = c' := List.singleton_inj.mp (List.append_inj' hinit' rfl).2
    exact Int.le_of_eq (by rw [midnightsTo, midnightsTo, hsame])
  | some t =>
    have ht := hown.trans (congrArg some ho)
    rw [stampsTo_succ_of_some ht] at hinit'
    obtain rfl : t = c' := List.singleton_inj.mp (List.append_inj' hinit' rfl).2
    rw [midnightsTo_succ_of_some hinit ht]
    unfold dayMillis at *
    split
    · omega
    · next hback =>
      have hle : c.millis ≤ t.millis := Int.not_lt.mp hback
      omega

/-! ## Times in order -/

/-- **Times in order**: from the first stamp on every record has a time, and none an earlier one
than a record before it. -/
def InOrder (own times : List (Option Instant)) : Prop :=
  ∀ i j, StampedBy own i → i ≤ j → j < own.length →
    ∃ a b, times[i]? = some (some a) ∧ times[j]? = some (some b) ∧ a ≤ b

theorem StampedBy.mono {i j : Nat} (h : StampedBy own i) (hij : i ≤ j) : StampedBy own j :=
  h.imp fun _ hk => ⟨Nat.le_trans hk.1 hij, hk.2⟩

theorem inOrder_of_succ {times : List (Option Instant)}
    (htime : ∀ i, StampedBy own i → i < own.length → ∃ a, times[i]? = some (some a))
    (hsucc : ∀ i (a b : Instant), StampedBy own i → times[i]? = some (some a) →
      times[i + 1]? = some (some b) → a ≤ b) : InOrder own times := by
  intro i j hi hij
  induction j, hij using Nat.le_induction with
  | base =>
    intro hj
    obtain ⟨a, ha⟩ := htime i hi hj
    exact ⟨a, a, ha, ha, Int.le_refl _⟩
  | succ j hij ih =>
    intro hj
    obtain ⟨a, b, ha, hb, hab⟩ := ih (by omega)
    obtain ⟨b', hb'⟩ := htime (j + 1) (hi.mono (by omega)) hj
    exact ⟨a, b', ha, hb', Int.le_trans hab (hsucc j b b' (hi.mono hij) hb hb')⟩

/-- The times of a log are in order where at most 365 midnights pass. -/
theorem inOrder_filledTimes (hclock : ∀ t, some t ∈ own → t.day = 0)
    (hm : midnights own.reduceOption ≤ 365) : InOrder own (filledTimes own) := by
  have hclocked : ∀ i, StampedBy own i → i < own.length → ∃ u c, ClockTime own i u c :=
    fun i h hi => exists_clockTime hclock h hi (Nat.le_trans (midnightsTo_le own i) hm)
  refine inOrder_of_succ (fun i h hi => ?_) fun i a b h ha hb => ?_
  · obtain ⟨u, c, hu⟩ := hclocked i h hi
    exact ⟨u, (filledTimes_of_stampedBy h hi).trans hu.time⟩
  · have hi : i + 1 < own.length := by
      rw [← length_filledTimes own]
      exact (List.getElem?_eq_some_iff.mp hb).1
    have hnext : StampedBy own (i + 1) := h.mono (Nat.le_succ i)
    obtain ⟨u, c, hu⟩ := hclocked i h (by omega)
    obtain ⟨u', c', hu'⟩ := hclocked (i + 1) hnext hi
    rw [filledTimes_of_stampedBy h (by omega), hu.time] at ha
    rw [filledTimes_of_stampedBy hnext hi, hu'.time] at hb
    obtain rfl := Option.some.inj (Option.some.inj ha)
    obtain rfl := Option.some.inj (Option.some.inj hb)
    exact hu.le_succ hu'

/-! ## The turn of the year -/

theorem mem_carriedFrom_of_mem_filledTimes {t : Instant} (h : some t ∈ filledTimes own) :
    some t ∈ carriedFrom none own := by
  obtain ⟨u, hu, hut⟩ := List.mem_map.mp h
  cases u with
  | some u => exact hut ▸ hu
  | none =>
    rw [Option.none_or, lastCarried, List.getLastD_eq_getLast?] at hut
    cases hlast : (carriedFrom none own).getLast? with
    | none => exact absurd hut (by rw [hlast]; simp)
    | some v =>
      rw [hlast, Option.getD_some] at hut
      exact hut ▸ List.mem_of_getLast? hlast

theorem exists_of_mem_filledTimes {t : Instant} (h : some t ∈ filledTimes own) :
    ∃ i, StampedBy own i ∧ i < own.length ∧ (carriedFrom none own)[i]? = some (some t) := by
  obtain ⟨i, hi⟩ := List.getElem?_of_mem (mem_carriedFrom_of_mem_filledTimes h)
  have hlt : i < own.length := by
    rw [← length_carriedFrom none own]
    exact (List.getElem?_eq_some_iff.mp hi).1
  refine ⟨i, ?_, hlt, hi⟩
  by_contra hnot
  rw [carriedFrom_of_not_stampedBy hnot hlt] at hi
  exact absurd hi (by simp)

/-- Fewer than 365 midnights leave a log in 1970. -/
theorem isUndated_of_mem_filledTimes (hclock : ∀ t, some t ∈ own → t.day = 0)
    (hm : midnights own.reduceOption < 365) {t : Instant} (h : some t ∈ filledTimes own) :
    t.isUndated = true := by
  obtain ⟨i, hstamped, hi, ht⟩ := exists_of_mem_filledTimes h
  have hle := midnightsTo_le own i
  obtain ⟨u, c, hu⟩ := exists_clockTime hclock hstamped hi (by omega)
  obtain rfl : u = t := Option.some.inj (Option.some.inj (hu.time.symm.trans ht))
  rw [Instant.isUndated_iff, hu.day]
  omega

theorem day_nonneg_of_mem_carriedFrom (hclock : ∀ t, some t ∈ own → t.day = 0)
    {prev : Option Instant} (hprev : ∀ p, prev = some p → 0 ≤ p.day) {t : Instant}
    (h : some t ∈ carriedFrom prev own) : 0 ≤ t.day := by
  induction own generalizing prev with
  | nil => exact absurd h List.not_mem_nil
  | cons o rest ih =>
    have hnext : ∀ p, timeAfter prev o = some p → 0 ≤ p.day := by
      intro p hp
      cases o with
      | none => exact hprev p hp
      | some s =>
        obtain rfl := Option.some.inj hp
        have hs := hclock s List.mem_cons_self
        exact hs ▸ Instant.day_le_day (Instant.le_self_rollPast s prev)
    rcases List.mem_cons.mp h with h | h
    · exact hnext t h.symm
    · exact ih (fun s hs => hclock s (List.mem_cons_of_mem o hs)) hnext h

/-- **A log with 365 midnights or more** turns from 1970 to 1971 between two messages. -/
theorem exists_turn_of_year (hclock : ∀ t, some t ∈ own → t.day = 0)
    (hm : 365 ≤ midnights own.reduceOption) :
    ∃ i u v, StampedBy own i ∧ i + 1 < own.length ∧ (filledTimes own)[i]? = some (some u) ∧
      (filledTimes own)[i + 1]? = some (some v) ∧ u.day = 364 ∧ v.day = 365 := by
  have hend : ∃ n, 365 ≤ midnightsTo own n := by
    refine ⟨own.length, ?_⟩
    rwa [midnightsTo, stampsTo, List.take_of_length_le (Nat.le_succ _)]
  -- The first message of 1971 is not the first of all, and the one ahead of it is of 1970.
  obtain ⟨i, hi⟩ : ∃ i, Nat.find hend = i + 1 := by
    refine Nat.exists_eq_succ_of_ne_zero fun hzero => ?_
    have hfirst := Nat.find_spec hend
    rw [hzero, midnightsTo_zero] at hfirst
    omega
  have hturn : 365 ≤ midnightsTo own (i + 1) := hi ▸ Nat.find_spec hend
  have hbefore : midnightsTo own i < 365 := Nat.not_le.mp (Nat.find_min hend (by omega))
  have hstep := (midnightsTo_succ own i).2
  have hlen : i + 1 < own.length := by
    by_contra hout
    rw [midnightsTo, stampsTo_succ_of_length_le (Nat.not_lt.mp hout), ← midnightsTo] at hturn
    omega
  have hstamped : StampedBy own i := by
    rw [← stampsTo_ne_nil_iff]
    intro hnil
    have hzero : midnightsTo own i = 0 := by rw [midnightsTo, hnil]; rfl
    omega
  have hnext : StampedBy own (i + 1) := hstamped.mono (Nat.le_succ i)
  obtain ⟨u, c, hu⟩ := exists_clockTime hclock hstamped (by omega) (by omega)
  obtain ⟨v, c', hv⟩ := exists_clockTime hclock hnext hlen (by omega)
  refine ⟨i, u, v, hstamped, hlen, ?_, ?_, ?_, ?_⟩
  · rw [filledTimes_of_stampedBy hstamped (by omega), hu.time]
  · rw [filledTimes_of_stampedBy hnext hlen, hv.time]
  · rw [hu.day]; omega
  · rw [hv.day]; omega

end Logbook
