import Logbook.Proofs.Message.Blocks
import Logbook.Proofs.Time.Rolling

/-!
# The times of a log

Within a log either every record has a time or none has. A record without a stamp of its own takes
over the time before it, or the last time of all where no stamp came before.

* `carriedFrom_getElem?_succ`: each time comes from the stamp and the time before it;
* `carriedFrom_of_stampedBy`, `carriedFrom_of_not_stampedBy`: there is a time from the first stamp
  on, and none before it;
* `TimesFollow`: what the times of a log owe to its stamps;
* **`timesFollow_parseLog`**: the times of every log follow its stamps.
-/

namespace Logbook

/-- Some message up to place `i` has a stamp. -/
def StampedBy (own : List (Option Instant)) (i : Nat) : Prop :=
  ∃ j ≤ i, ∃ t, own[j]? = some (some t)

/-- **The times of a log follow its stamps.** Place `i` of `own` is the stamp that message `i` has
of its own, place `i` of `times` the time of its record. -/
structure TimesFollow (own times : List (Option Instant)) : Prop where
  length : times.length = own.length
  all_or_none : (∀ t ∈ times, t.isSome = true) ∨ ∀ t ∈ times, t = none
  /-- Ahead of the first stamp stands the time of the last record. -/
  ahead : ∀ i < own.length, ¬ StampedBy own i → times[i]? = times.getLast?
  /-- Behind it, a record without a stamp has the time before it. -/
  inherited : ∀ i, StampedBy own i → own[i + 1]? = some none → times[i + 1]? = times[i]?
  /-- Behind it, a record with an undated stamp or none is no earlier than the one before it, if
  some number of days takes the stamp so far within the calendar. -/
  not_earlier : ∀ i (p : Instant) o, StampedBy own i → times[i]? = some (some p) →
    own[i + 1]? = some o →
    (∀ t : Instant, o = some t → t.isUndated = true ∧ ∃ k : Nat,
      p.millis ≤ t.millis + k * dayMillis ∧ t.millis + k * dayMillis ≤ lastMillis) →
    ∃ u, times[i + 1]? = some (some u) ∧ p ≤ u
  /-- A dated stamp is the time. -/
  dated : ∀ (i : Nat) (t : Instant), own[i]? = some (some t) → t.isUndated = false →
    times[i]? = some (some t)

/-! ## Carrying times on -/

theorem length_carriedFrom (prev : Option Instant) (own : List (Option Instant)) :
    (carriedFrom prev own).length = own.length := by
  induction own generalizing prev with
  | nil => rfl
  | cons o rest ih => rw [carriedFrom, List.length_cons, List.length_cons, ih]

theorem timeAfter_none (prev : Option Instant) : timeAfter prev none = prev := rfl

theorem timeAfter_some (prev : Option Instant) (t : Instant) :
    timeAfter prev (some t) = some (t.rollPast prev) := rfl

theorem carriedFrom_getElem?_zero (prev : Option Instant) (own : List (Option Instant)) :
    (carriedFrom prev own)[0]? = own[0]?.map (timeAfter prev) := by
  cases own <;> rfl

/-- Each time comes from the stamp at its place and the time before it. -/
theorem carriedFrom_getElem?_succ (prev : Option Instant) (own : List (Option Instant)) (i : Nat) :
    (carriedFrom prev own)[i + 1]? =
      own[i + 1]?.map (timeAfter ((carriedFrom prev own)[i]?.getD none)) := by
  induction own generalizing prev i with
  | nil => rfl
  | cons o rest ih =>
    simp only [carriedFrom, List.getElem?_cons_succ]
    cases i with
    | zero => exact carriedFrom_getElem?_zero _ rest
    | succ i => exact ih _ i

theorem carriedFrom_of_stampedBy (prev : Option Instant) {own : List (Option Instant)} {i : Nat}
    (h : StampedBy own i) (hi : i < own.length) :
    ∃ u, (carriedFrom prev own)[i]? = some (some u) := by
  obtain ⟨j, hj, t, ht⟩ := h
  induction i with
  | zero =>
    obtain rfl : j = 0 := by omega
    exact ⟨_, by rw [carriedFrom_getElem?_zero, ht, Option.map_some, timeAfter_some]⟩
  | succ i ih =>
    rw [carriedFrom_getElem?_succ, List.getElem?_eq_getElem hi, Option.map_some]
    cases ho : own[i + 1] with
    | some t' => exact ⟨_, by rw [timeAfter_some]⟩
    | none =>
      have hji : j ≤ i := by
        by_contra hc
        obtain rfl : j = i + 1 := by omega
        rw [List.getElem?_eq_getElem hi, ho] at ht
        exact absurd ht (by simp)
      obtain ⟨u, hu⟩ := ih (by omega) hji
      exact ⟨u, by rw [hu, timeAfter_none, Option.getD_some]⟩

theorem carriedFrom_of_not_stampedBy {own : List (Option Instant)} {i : Nat}
    (h : ¬ StampedBy own i) (hi : i < own.length) : (carriedFrom none own)[i]? = some none := by
  have hown : ∀ j ≤ i, own[j]? = some none := by
    intro j hj
    have hlt : j < own.length := by omega
    rw [List.getElem?_eq_getElem hlt]
    cases ho : own[j] with
    | none => rfl
    | some t => exact absurd ⟨j, hj, t, by rw [List.getElem?_eq_getElem hlt, ho]⟩ h
  induction i with
  | zero => rw [carriedFrom_getElem?_zero, hown 0 le_rfl, Option.map_some, timeAfter_none]
  | succ i ih =>
    have hprev := ih (fun ⟨j, hj, ht⟩ => h ⟨j, by omega, ht⟩) (by omega)
      fun j hj => hown j (by omega)
    rw [carriedFrom_getElem?_succ, hprev, hown (i + 1) le_rfl, Option.map_some, Option.getD_some,
      timeAfter_none]

/-! ## Filling in the times ahead of the first stamp -/

/-- The last time that stamps give. -/
def lastCarried (own : List (Option Instant)) : Option Instant :=
  (carriedFrom none own).getLastD none

/-- The times that stamps give, the last one ahead of the first stamp. -/
def filledTimes (own : List (Option Instant)) : List (Option Instant) :=
  (carriedFrom none own).map (·.or (lastCarried own))

theorem length_filledTimes (own : List (Option Instant)) :
    (filledTimes own).length = own.length := by
  rw [filledTimes, List.length_map, length_carriedFrom]

theorem filledTimes_of_stampedBy {own : List (Option Instant)} {i : Nat} (h : StampedBy own i)
    (hi : i < own.length) : (filledTimes own)[i]? = (carriedFrom none own)[i]? := by
  obtain ⟨u, hu⟩ := carriedFrom_of_stampedBy none h hi
  rw [filledTimes, List.getElem?_map, hu, Option.map_some, Option.some_or]

theorem filledTimes_of_not_stampedBy {own : List (Option Instant)} {i : Nat}
    (h : ¬ StampedBy own i) (hi : i < own.length) :
    (filledTimes own)[i]? = some (lastCarried own) := by
  rw [filledTimes, List.getElem?_map, carriedFrom_of_not_stampedBy h hi, Option.map_some,
    Option.none_or]

theorem getLast?_filledTimes {own : List (Option Instant)} (h : own ≠ []) :
    (filledTimes own).getLast? = some (lastCarried own) := by
  have hne : carriedFrom none own ≠ [] := by
    rwa [← List.length_pos_iff, length_carriedFrom, List.length_pos_iff]
  rw [filledTimes, List.getLast?_map, lastCarried, List.getLastD_eq_getLast?,
    List.getLast?_eq_some_getLast hne, Option.map_some, Option.getD_some, Option.or_self]

theorem filledTimes_getElem?_succ {own : List (Option Instant)} {i : Nat} (h : StampedBy own i)
    (hi : i + 1 < own.length) :
    (filledTimes own)[i + 1]? =
      own[i + 1]?.map (timeAfter ((filledTimes own)[i]?.getD none)) := by
  have hsucc : StampedBy own (i + 1) := h.imp fun j hj => ⟨by omega, hj.2⟩
  rw [filledTimes_of_stampedBy hsucc hi, filledTimes_of_stampedBy h (by omega),
    carriedFrom_getElem?_succ]

theorem not_stampedBy_of_lastCarried {own : List (Option Instant)} (h : lastCarried own = none)
    (i : Nat) : ¬ StampedBy own i := by
  rintro ⟨j, hj, t, ht⟩
  have hlt : j < own.length := (List.getElem?_eq_some_iff.mp ht).1
  obtain ⟨u, hu⟩ := carriedFrom_of_stampedBy none
    (⟨j, by omega, t, ht⟩ : StampedBy own (own.length - 1)) (by omega)
  rw [← length_carriedFrom none own, ← List.getLast?_eq_getElem?] at hu
  rw [lastCarried, List.getLastD_eq_getLast?, hu, Option.getD_some] at h
  exact absurd h (by simp)

/-- The stamps of a log determine times that follow them. -/
theorem timesFollow_filledTimes (own : List (Option Instant)) :
    TimesFollow own (filledTimes own) where
  length := length_filledTimes own
  all_or_none := by
    cases h : lastCarried own with
    | some last =>
      refine .inl fun t ht => ?_
      obtain ⟨u, -, rfl⟩ := List.mem_map.mp ht
      rw [h, Option.isSome_or, Option.isSome_some, Bool.or_true]
    | none =>
      refine .inr fun t ht => ?_
      obtain ⟨i, hi, rfl⟩ := List.mem_iff_getElem.mp ht
      have hown : i < own.length := length_filledTimes own ▸ hi
      have hi' := filledTimes_of_not_stampedBy (not_stampedBy_of_lastCarried h i) hown
      rw [List.getElem?_eq_getElem hi, h] at hi'
      exact Option.some.inj hi'
  ahead i hi h := by
    have hne : own ≠ [] := List.ne_nil_of_length_pos (by omega)
    rw [filledTimes_of_not_stampedBy h hi, getLast?_filledTimes hne]
  inherited i h hnone := by
    have hlt : i + 1 < own.length := (List.getElem?_eq_some_iff.mp hnone).1
    obtain ⟨u, hu⟩ := carriedFrom_of_stampedBy none h (by omega)
    rw [← filledTimes_of_stampedBy h (by omega)] at hu
    rw [filledTimes_getElem?_succ h hlt, hnone, hu, Option.map_some, timeAfter_none,
      Option.getD_some]
  not_earlier i p o h hp ho hroom := by
    have hlt : i + 1 < own.length := (List.getElem?_eq_some_iff.mp ho).1
    rw [filledTimes_getElem?_succ h hlt, ho, hp, Option.map_some, Option.getD_some]
    cases o with
    | none => exact ⟨p, rfl, Int.le_refl _⟩
    | some t =>
      obtain ⟨hu, k, hk, hend⟩ := hroom t rfl
      exact ⟨t.rollPast (some p), rfl, Instant.le_rollPast hu hk hend⟩
  dated i t ht hd := by
    have hlt : i < own.length := (List.getElem?_eq_some_iff.mp ht).1
    rw [filledTimes_of_stampedBy ⟨i, le_rfl, t, ht⟩ hlt]
    cases i with
    | zero =>
      rw [carriedFrom_getElem?_zero, ht, Option.map_some, timeAfter_some,
        Instant.rollPast_of_dated hd]
    | succ i =>
      rw [carriedFrom_getElem?_succ, ht, Option.map_some, timeAfter_some,
        Instant.rollPast_of_dated hd]

/-! ## The records of a log -/

/-- The times of a log's records are those that its stamps determine. -/
theorem parseLog_eq (log text : String) :
    parseLog log text = List.zipWith (fun m t => { m.1 with time := t }) (messages log text)
      (filledTimes ((messages log text).map Prod.snd)) := by
  unfold parseLog parseLines
  rw [parseBlocks_eq]
  simp only [filledTimes, lastCarried, messages, List.map_zipWith, List.zipWith_map_right]

theorem time_parseLog (log text : String) :
    (parseLog log text).map Record.time = filledTimes ((messages log text).map Prod.snd) := by
  have hlen := length_filledTimes ((messages log text).map Prod.snd)
  rw [List.length_map] at hlen
  rw [parseLog_eq, ← List.map_uncurry_zip_eq_zipWith, List.map_map]
  exact List.map_snd_zip hlen.le

/-- **Times of a log.** Every block of a log has a message with a record and perhaps a stamp; the
records of the log are these with times that follow the stamps. -/
theorem timesFollow_parseLog (log text : String) :
    (blocks (Text.lines text.toList)).map (readMessage? log) = (messages log text).map some ∧
      parseLog log text = List.zipWith (fun m t => { m.1 with time := t }) (messages log text)
        ((parseLog log text).map Record.time) ∧
      TimesFollow ((messages log text).map Prod.snd) ((parseLog log text).map Record.time) := by
  refine ⟨map_readMessage?_blocks log text, ?_, ?_⟩
  · rw [time_parseLog, ← parseLog_eq]
  · rw [time_parseLog]
    exact timesFollow_filledTimes _

end Logbook
