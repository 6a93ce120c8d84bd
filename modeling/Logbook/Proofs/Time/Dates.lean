import Logbook.Proofs.Time.Years

/-!
# The date of a day

* `Date.add_snd_yearOf`, `Date.snd_yearOf_lt`: how far into its year a day is;
* `Date.monthOf_spec`: the month of a day of the year, by the lengths of the months before it;
* **`Date.valid_ofNumber`**, **`Date.number_ofNumber`**: the date of a day is one that there is, and
  it leads back to the day;
* **`Date.ofNumber_number`**: the day of a date has that date;
* `Instant.year_inCalendar`: the years of the calendar.
-/

namespace Logbook

namespace Date

/-! ## The day in its year -/

/-- The days before the year and those in it make up the number of the day. -/
theorem add_snd_yearOf (n : Int) : daysBeforeYear (yearOf n).1 + (yearOf n).2 = n := by
  simp only [yearOf]
  rw [daysBeforeYear_of_parts (by omega) (by omega) (by omega)]
  omega

theorem daysBeforeYear_add_one (y : Int) :
    daysBeforeYear (y + 1) = daysBeforeYear y + if isLeap y then 366 else 365 := by
  simp only [daysBeforeYear, isLeap, Bool.and_eq_true, Bool.or_eq_true, bne_iff_ne, beq_iff_eq]
  split
  · omega
  · omega

theorem sum_monthLengths (leap : Bool) :
    (monthLengths leap).foldr (· + ·) 0 = if leap then 366 else 365 := by
  cases leap <;> rfl

theorem snd_yearOf_lt (n : Int) :
    (yearOf n).2 < (monthLengths (isLeap (yearOf n).1)).foldr (· + ·) 0 := by
  have hadd := add_snd_yearOf n
  have hnext := (yearOf_bounds n).2
  rw [daysBeforeYear_add_one] at hnext
  rw [sum_monthLengths]
  split
  · next h => rw [if_pos h] at hnext; omega
  · next h => rw [if_neg h] at hnext; omega

/-! ## The day in its month -/

/-- What going through the lengths of months, from month `m` on, finds for day `r`. -/
structure InMonth (lens : List Nat) (m r month day : Nat) : Prop where
  first_le : m ≤ month
  lt_last : month < m + lens.length
  pos : 1 ≤ day
  le_length : day ≤ lens.getD (month - m) 0
  sum : (lens.take (month - m)).foldr (· + ·) 0 + day = r + 1

theorem monthOf_spec {lens : List Nat} {m r : Nat} (h : r < lens.foldr (· + ·) 0) :
    InMonth lens m r (monthOf lens m r).1 (monthOf lens m r).2 := by
  induction lens generalizing m r with
  | nil => exact absurd h (Nat.not_lt_zero r)
  | cons len rest ih =>
    unfold monthOf
    split
    · next hr =>
      exact ⟨Nat.le_refl m, by simp, Nat.succ_pos r, by simpa using Nat.succ_le_of_lt hr, by simp⟩
    · next hr =>
      rw [List.foldr_cons] at h
      have hfound := ih (m := m + 1) (r := r - len) (by omega)
      generalize monthOf rest (m + 1) (r - len) = found at hfound
      have hfirst := hfound.first_le
      -- The months found in the rest lie one further on.
      have hsub : found.1 - m = (found.1 - (m + 1)) + 1 := by omega
      refine ⟨by omega, ?_, hfound.pos, ?_, ?_⟩
      · have := hfound.lt_last
        rw [List.length_cons]
        omega
      · rw [hsub, List.getD_cons_succ]
        exact hfound.le_length
      · have := hfound.sum
        rw [hsub, List.take_succ_cons, List.foldr_cons]
        omega

theorem length_monthLengths (leap : Bool) : (monthLengths leap).length = 12 := rfl

/-! ## The date -/

theorem ofNumber_eq {n : Int} {first : Int × Nat} (h : yearOf n = first) :
    ofNumber n = ⟨first.1, (monthOf (monthLengths (isLeap first.1)) 1 first.2).1,
      (monthOf (monthLengths (isLeap first.1)) 1 first.2).2⟩ := by
  rw [ofNumber, h]

theorem inMonth_ofNumber (n : Int) : InMonth (monthLengths (isLeap (ofNumber n).year)) 1
    (yearOf n).2 (ofNumber n).month (ofNumber n).day := by
  have hlt := snd_yearOf_lt n
  generalize hfirst : yearOf n = first at hlt ⊢
  rw [ofNumber_eq hfirst]
  exact monthOf_spec hlt

/-- **The date of a day is one that there is.** -/
theorem valid_ofNumber (n : Int) : (ofNumber n).Valid := by
  have hmonth := inMonth_ofNumber n
  have hfirst := hmonth.first_le
  have hlast := hmonth.lt_last
  rw [length_monthLengths] at hlast
  refine ⟨hfirst, by omega, hmonth.pos, ?_⟩
  rw [monthLength, if_neg (by omega)]
  exact hmonth.le_length

/-- **The date of a day leads back to the day.** -/
theorem number_ofNumber (n : Int) : (ofNumber n).number = n := by
  have hsum := (inMonth_ofNumber n).sum
  have hadd := add_snd_yearOf n
  rw [← year_ofNumber rfl] at hadd
  rw [number, daysBeforeMonth]
  omega

/-! ## The day of a date -/

theorem daysBeforeMonth_add_le (leap : Bool) : ∀ m < 13, ∀ m' < 13, 1 ≤ m → m < m' →
    daysBeforeMonth leap m + monthLength leap m ≤ daysBeforeMonth leap m' := by
  cases leap <;> decide

theorem daysBeforeMonth_add_le_year (leap : Bool) : ∀ m < 13, 1 ≤ m →
    daysBeforeMonth leap m + monthLength leap m ≤ if leap then 366 else 365 := by
  cases leap <;> decide

theorem year_ofNumber_number {d : Date} (h : d.Valid) : (ofNumber d.number).year = d.year := by
  obtain ⟨hm, hm', hd, hd'⟩ := h
  have hyear := daysBeforeMonth_add_le_year (isLeap d.year) d.month (by omega) hm
  rw [year_ofNumber_eq_iff, daysBeforeYear_add_one, number]
  refine ⟨by omega, ?_⟩
  split
  · next hleap => rw [if_pos hleap] at hyear; omega
  · next hleap => rw [if_neg hleap] at hyear; omega

/-- **The day of a date has that date.** -/
theorem ofNumber_number {d : Date} (h : d.Valid) : ofNumber d.number = d := by
  have hyear := year_ofNumber_number h
  have hvalid := valid_ofNumber d.number
  have hnumber := number_ofNumber d.number
  generalize ofNumber d.number = d' at hyear hvalid hnumber
  obtain ⟨y, m, k⟩ := d
  obtain ⟨y', m', k'⟩ := d'
  obtain rfl : y' = y := hyear
  obtain ⟨hm₁, hm₂, hk₁, hk₂⟩ := h
  obtain ⟨hm₁', hm₂', hk₁', hk₂'⟩ := hvalid
  simp only [number] at *
  rcases Nat.lt_trichotomy m m' with hlt | rfl | hlt
  · have := daysBeforeMonth_add_le (isLeap y') m (by omega) m' (by omega) hm₁ hlt
    omega
  · obtain rfl : k' = k := by omega
    rfl
  · have := daysBeforeMonth_add_le (isLeap y') m' (by omega) m (by omega) hm₁' hlt
    omega

end Date

theorem Instant.year_inCalendar (t : Instant) : firstYear ≤ t.year ∧ t.year ≤ lastYear := by
  obtain ⟨hbegun, hnext⟩ := year_eq_iff.mp (rfl : t.year = t.year)
  have hfirst : Date.daysBeforeYear firstYear = Date.epoch - 96465292 := by decide
  have hlast : Date.daysBeforeYear (lastYear + 1) = Date.epoch + 95026237 := by decide
  have hday : -96465292 ≤ t.day ∧ t.day < 95026237 := by
    have := t.inCalendar
    unfold day dayMillis firstMillis lastMillis at *
    omega
  refine ⟨Int.not_lt.mp fun hlt => ?_, Int.not_lt.mp fun hlt => ?_⟩
  · have := Date.daysBeforeYear_le (Int.add_one_le_of_lt hlt)
    omega
  · have := Date.daysBeforeYear_le (Int.add_one_le_of_lt hlt)
    omega

end Logbook
