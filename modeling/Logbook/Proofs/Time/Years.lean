import Logbook.Time.Stamp

/-!
# Years and undated instants

* `Date.yearOf_bounds`, **`Date.year_ofNumber_eq_iff`**: the year of a day is the one that has begun
  and not yet ended;
* `Instant.year_eq_iff`: the same of instants;
* **`Instant.isUndated_iff`**: the undated instants are those of 365 days.
-/

namespace Logbook

/-! ## Years -/

namespace Date

/-- The days before a year by its place among four hundred, one hundred and four years. -/
theorem daysBeforeYear_of_parts {q : Int} {c f o : Nat} (hc : c ≤ 3) (hf : f ≤ 24) (ho : o ≤ 3) :
    daysBeforeYear (400 * q + (100 * c + 4 * f + o : Nat) + 1)
      = 146097 * q + 36524 * c + 1461 * f + 365 * o := by
  simp only [daysBeforeYear]
  omega

/-- The last of four years has 366 days, but not the last of one hundred that are not four
hundred. -/
theorem daysBeforeYear_succ_of_parts {q : Int} {c f o : Nat} (hc : c ≤ 3) (hf : f ≤ 24)
    (ho : o ≤ 3) :
    daysBeforeYear (400 * q + (100 * c + 4 * f + o : Nat) + 1 + 1)
      = 146097 * q + 36524 * c + 1461 * f + 365 * o + 365 +
        if o = 3 ∧ (f < 24 ∨ c = 3) then 1 else 0 := by
  simp only [daysBeforeYear]
  split
  · omega
  · omega

theorem daysBeforeYear_le {y y' : Int} (h : y ≤ y') : daysBeforeYear y ≤ daysBeforeYear y' := by
  simp only [daysBeforeYear]
  omega

theorem yearOf_bounds (n : Int) :
    daysBeforeYear (yearOf n).1 ≤ n ∧ n < daysBeforeYear ((yearOf n).1 + 1) := by
  simp only [yearOf]
  rw [daysBeforeYear_of_parts (by omega) (by omega) (by omega),
    daysBeforeYear_succ_of_parts (by omega) (by omega) (by omega)]
  constructor
  · omega
  · split
    · omega
    · omega

theorem year_ofNumber {n : Int} {first : Int × Nat} (h : yearOf n = first) :
    (ofNumber n).year = first.1 := by
  rw [ofNumber, h]

/-- **The year of a day** is the one that has begun and not yet ended. -/
theorem year_ofNumber_eq_iff {n y : Int} :
    (ofNumber n).year = y ↔ daysBeforeYear y ≤ n ∧ n < daysBeforeYear (y + 1) := by
  have hbounds := yearOf_bounds n
  -- The year is taken as it is, since opening it leads into long divisions.
  generalize hfirst : yearOf n = first at hbounds
  rw [year_ofNumber hfirst]
  constructor
  · rintro rfl
    exact hbounds
  · rintro ⟨hbegun, hnext⟩
    rcases Int.lt_trichotomy first.1 y with hlt | heq | hlt
    · have := daysBeforeYear_le (Int.add_one_le_of_lt hlt)
      omega
    · exact heq
    · have := daysBeforeYear_le (Int.add_one_le_of_lt hlt)
      omega

end Date

/-! ## Instants -/

namespace Instant

theorem year_eq_iff {t : Instant} {y : Int} : t.year = y ↔
    Date.daysBeforeYear y ≤ t.day + Date.epoch ∧
      t.day + Date.epoch < Date.daysBeforeYear (y + 1) := by
  rw [year, date, Date.year_ofNumber_eq_iff]

/-- **The undated instants** are those of the first 365 days from the start of 1970. -/
theorem isUndated_iff (t : Instant) : t.isUndated = true ↔ 0 ≤ t.day ∧ t.day < 365 := by
  have hbegun : Date.daysBeforeYear 1970 = Date.epoch := by decide
  have hnext : Date.daysBeforeYear (1970 + 1) = Date.epoch + 365 := by decide
  rw [isUndated, beq_iff_eq, year_eq_iff, hbegun, hnext]
  omega

theorem isUndated_eq_false_iff (t : Instant) : t.isUndated = false ↔ t.day < 0 ∨ 365 ≤ t.day := by
  rw [← Bool.not_eq_true, isUndated_iff]
  omega

theorem year_eq_1969 {t : Instant} (hbegun : -365 ≤ t.day) (hnext : t.day < 0) : t.year = 1969 := by
  have hbegun' : Date.daysBeforeYear 1969 = Date.epoch - 365 := by decide
  have hnext' : Date.daysBeforeYear (1969 + 1) = Date.epoch := by decide
  rw [year_eq_iff, hbegun', hnext']
  omega

theorem year_eq_lastYear {t : Instant} (hbegun : 95025872 ≤ t.day) : t.year = lastYear := by
  have hbegun' : Date.daysBeforeYear lastYear = Date.epoch + 95025872 := by decide
  have hnext' : Date.daysBeforeYear (lastYear + 1) = Date.epoch + 95026237 := by decide
  have hend : t.day < 95026237 := by
    have := t.inCalendar.2
    unfold day dayMillis lastMillis at *
    omega
  rw [year_eq_iff, hbegun', hnext']
  omega

end Instant

end Logbook
