import Mathlib.Order.Bounds.Basic
import Logbook.Time.Instant

/-!
# Rolling past midnight

An undated stamp that is earlier than the time before it moves on by whole days.

* `Instant.daysTo`: how many days it takes;
* `Instant.le_add_daysTo`, `Instant.add_daysTo_le`: they are enough, and the fewest;
* **`Instant.le_rollPast`**: the moved stamp is no earlier, where the calendar has room for it;
* `Instant.le_self_rollPast`: no stamp moves back;
* `Instant.dayByDay`: the times whole days after a stamp that are late enough;
* **`Instant.rollPast_least`**: the moved stamp is at the least of them, with the clock it had.
-/

namespace Logbook.Instant

/-- The days that take `t` to `p` or past it. -/
def daysTo (t p : Instant) : Int := (p.millis - t.millis + dayMillis - 1) / dayMillis

theorem rollPast_of_lt {t p : Instant} (hu : t.isUndated = true) (h : ¬ p ≤ t) :
    t.rollPast (some p) = (t.add? (t.daysTo p * dayMillis)).getD t := by
  simp [rollPast, hu, h, daysTo]

theorem le_add_daysTo (t p : Instant) : p.millis ≤ t.millis + t.daysTo p * dayMillis := by
  unfold daysTo dayMillis
  omega

theorem add_daysTo_le {t p : Instant} {k : Int} (h : p.millis ≤ t.millis + k * dayMillis) :
    t.millis + t.daysTo p * dayMillis ≤ t.millis + k * dayMillis := by
  unfold daysTo dayMillis at *
  omega

theorem lt_add_daysTo {t p : Instant} (h : ¬ p ≤ t) :
    t.millis < t.millis + t.daysTo p * dayMillis := by
  have hp : t.millis < p.millis := Int.not_le.mp h
  have := le_add_daysTo t p
  omega

theorem add?_of_bounds {t : Instant} {ms : Int} (hlo : firstMillis ≤ t.millis + ms)
    (hhi : t.millis + ms ≤ lastMillis) : t.add? ms = some ⟨t.millis + ms, hlo, hhi⟩ :=
  dif_pos ⟨hlo, hhi⟩

/-- **A rolled stamp is no earlier**, if any number of whole days takes it there within the
calendar. -/
theorem le_rollPast {t p : Instant} (hu : t.isUndated = true) {k : Int}
    (hk : p.millis ≤ t.millis + k * dayMillis) (hend : t.millis + k * dayMillis ≤ lastMillis) :
    p ≤ t.rollPast (some p) := by
  by_cases h : p ≤ t
  · rwa [rollPast_of_le h]
  · have hlo : firstMillis ≤ t.millis + t.daysTo p * dayMillis :=
      Int.le_trans t.inCalendar.1 (Int.le_of_lt (lt_add_daysTo h))
    have hhi : t.millis + t.daysTo p * dayMillis ≤ lastMillis :=
      Int.le_trans (add_daysTo_le hk) hend
    rw [rollPast_of_lt hu h, add?_of_bounds hlo hhi]
    exact le_add_daysTo t p

/-- No stamp moves back. -/
theorem le_self_rollPast (t : Instant) (prev : Option Instant) : t ≤ t.rollPast prev := by
  cases hu : t.isUndated with
  | false => rw [rollPast_of_dated hu]; exact Int.le_refl _
  | true =>
    cases prev with
    | none => exact Int.le_refl _
    | some p =>
      by_cases h : p ≤ t
      · rw [rollPast_of_le h]; exact Int.le_refl _
      · rw [rollPast_of_lt hu h, add?, ofMillis?]
        split
        · exact Int.le_of_lt (lt_add_daysTo h)
        · exact Int.le_refl _

/-! ## The moved stamp -/

/-- The times one whole day or more after `t` that are no earlier than `p`. -/
def dayByDay (t p : Instant) : Set Int :=
  {m | p.millis ≤ m ∧ ∃ k : Nat, 1 ≤ k ∧ m = t.millis + k * dayMillis}

theorem one_le_daysTo {t p : Instant} (h : t < p) : 1 ≤ t.daysTo p := by
  have hlt : t.millis < p.millis := h
  unfold daysTo dayMillis
  omega

theorem isLeast_dayByDay {t p : Instant} (h : t < p) :
    IsLeast (dayByDay t p) (t.millis + t.daysTo p * dayMillis) := by
  have hone := one_le_daysTo h
  refine ⟨⟨le_add_daysTo t p, (t.daysTo p).toNat, by omega, ?_⟩, ?_⟩
  · rw [Int.toNat_of_nonneg (by omega)]
  · rintro m ⟨hp, k, -, rfl⟩
    exact add_daysTo_le hp

theorem add_daysTo_lt (t p : Instant) :
    t.millis + t.daysTo p * dayMillis < p.millis + dayMillis := by
  unfold daysTo dayMillis
  omega

theorem rollPast_of_le_lastMillis {t p : Instant} (hu : t.isUndated = true) (h : t < p)
    (hend : t.millis + t.daysTo p * dayMillis ≤ lastMillis) :
    (t.rollPast (some p)).millis = t.millis + t.daysTo p * dayMillis := by
  have hle : ¬ p ≤ t := Int.not_le.mpr h
  have hlo : firstMillis ≤ t.millis + t.daysTo p * dayMillis :=
    Int.le_trans t.inCalendar.1 (Int.le_of_lt (lt_add_daysTo hle))
  rw [rollPast_of_lt hu hle, add?_of_bounds hlo hend, Option.getD_some]

theorem rollPast_of_lastMillis_lt {t p : Instant} (hu : t.isUndated = true) (h : t < p)
    (hend : lastMillis < t.millis + t.daysTo p * dayMillis) : t.rollPast (some p) = t := by
  have hnone : t.add? (t.daysTo p * dayMillis) = none :=
    dif_neg fun hbounds => Int.not_le.mpr hend hbounds.2
  rw [rollPast_of_lt hu (Int.not_le.mpr h), hnone, Option.getD_none]

theorem sinceMidnight_add_days {t u : Instant} {k : Int}
    (h : u.millis = t.millis + k * dayMillis) : u.sinceMidnight = t.sinceMidnight := by
  rw [sinceMidnight, sinceMidnight, h, Int.add_mul_emod_self_right]

/-- A stamp keeps its clock, whether or not it moves. -/
theorem sinceMidnight_rollPast (t p : Instant) :
    (t.rollPast (some p)).sinceMidnight = t.sinceMidnight := by
  by_cases hu : t.isUndated = true
  · by_cases h : p ≤ t
    · rw [rollPast_of_le h]
    · have hlt : t < p := Int.not_le.mp h
      by_cases hend : t.millis + t.daysTo p * dayMillis ≤ lastMillis
      · exact sinceMidnight_add_days (rollPast_of_le_lastMillis hu hlt hend)
      · rw [rollPast_of_lastMillis_lt hu hlt (Int.not_le.mp hend)]
  · rw [rollPast_of_dated (Bool.not_eq_true _ ▸ hu)]

/-- **Where a stamp rolls to.** A dated stamp, or one that is late enough, stays. Any other one goes
to the least time by whole days after it that is no earlier than `p`, which is less than a day after
`p`, or stays where that time lies behind the end of the calendar. It keeps its clock. -/
theorem rollPast_least (t p : Instant) :
    (t.year ≠ 1970 ∨ p ≤ t → t.rollPast (some p) = t) ∧
    (t.year = 1970 → t < p → ∃ m, IsLeast (dayByDay t p) m ∧ m < p.millis + dayMillis ∧
      (m ≤ lastMillis → (t.rollPast (some p)).millis = m) ∧
      (lastMillis < m → t.rollPast (some p) = t)) ∧
    (t.rollPast (some p)).sinceMidnight = t.sinceMidnight := by
  refine ⟨?_, fun hyear hlt => ?_, sinceMidnight_rollPast t p⟩
  · rintro (hyear | hle)
    · exact rollPast_of_dated (beq_false_of_ne hyear) _
    · exact rollPast_of_le hle
  · have hu : t.isUndated = true := beq_iff_eq.mpr hyear
    exact ⟨_, isLeast_dayByDay hlt, add_daysTo_lt t p, rollPast_of_le_lastMillis hu hlt,
      rollPast_of_lastMillis_lt hu hlt⟩

/-- Two minutes past midnight after a time two days on, to the millisecond, and at the end of the
calendar. -/
theorem rollPast_least_twoDays :
    let t : Instant := ⟨120000, by decide⟩
    let p : Instant := ⟨172920000, by decide⟩
    t.year = 1970 ∧ t < p ∧ t.rollPast (some p) = p ∧
      t.rollPast (some ⟨lastMillis, by decide⟩) = t := by
  intro t p
  have hyear : t.year = 1970 := by decide
  have hlt : t < p := by decide
  refine ⟨hyear, hlt, ?_, ?_⟩
  · obtain ⟨m, ⟨⟨hle, -⟩, hleast⟩, -, hmove, -⟩ := (rollPast_least t p).2.1 hyear hlt
    obtain rfl : m = p.millis :=
      Int.le_antisymm (hleast ⟨Int.le_refl _, 2, by decide, by decide⟩) hle
    exact ext_millis (hmove (by decide))
  · obtain ⟨m, ⟨⟨hle, k, -, hm⟩, -⟩, -, -, hstay⟩ :=
      (rollPast_least t ⟨lastMillis, by decide⟩).2.1 hyear (by decide)
    have hle' : lastMillis ≤ m := hle
    have hm' : m = 120000 + k * dayMillis := hm
    refine hstay ?_
    unfold lastMillis dayMillis at *
    omega

end Logbook.Instant
