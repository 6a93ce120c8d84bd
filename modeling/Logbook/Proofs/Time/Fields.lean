import Logbook.Proofs.Time.Controls

/-!
# The fields of an instant

* `Instant.ofMillis?_eq_some_iff`: the instant of a number of milliseconds;
* `Instant.fields_lt`: how large the fields of an instant are;
* **`Instant.ofFields?_eq_some_iff`**: an instant is made from its own fields, and from no others.
-/

namespace Logbook.Instant

variable {t : Instant}

theorem ofMillis?_eq_some_iff {ms : Int} : ofMillis? ms = some t ↔ t.millis = ms := by
  unfold ofMillis?
  constructor
  · intro h
    split at h
    · rw [← Option.some.inj h]
    · exact absurd h (by simp)
  · rintro rfl
    exact dif_pos t.inCalendar

theorem fields_lt (t : Instant) :
    t.date.month ≤ 12 ∧ t.date.day ≤ 31 ∧ t.hour < 24 ∧ t.minute < 60 ∧ t.second < 60 ∧
      t.milli < 1000 := by
  have hclock := t.sinceMidnight_lt
  have hlength : ∀ leap, ∀ m < 13, Date.monthLength leap m ≤ 31 := by decide
  obtain ⟨-, hm, -, hd⟩ : t.date.Valid := Date.valid_ofNumber _
  refine ⟨hm, Nat.le_trans hd (hlength _ _ (by omega)), ?_⟩
  unfold hour minute second milli
  omega

theorem clockOn_self (t : Instant) : t.clockOn t = t := ext_millis t.day_add_sinceMidnight

/-- **A date and a clock are those of the one instant that they make.** -/
theorem ofFields?_eq_some_iff {d : Date} {hh mm ss ms : Nat} : ofFields? d hh mm ss ms = some t ↔
    t.date = d ∧ t.hour = hh ∧ t.minute = mm ∧ t.second = ss ∧ t.milli = ms := by
  constructor
  · intro h
    simp only [ofFields?, Option.ite_none_right_eq_some, ofMillis?_eq_some_iff] at h
    obtain ⟨⟨hd, -, -, hhh, hmm, hss, hms⟩, hmillis⟩ := h
    have hday : t.day = d.number - Date.epoch := by
      unfold day
      rw [hmillis]
      unfold dayMillis
      omega
    have hclock : t.sinceMidnight = hh * 3600000 + mm * 60000 + ss * 1000 + ms := by
      unfold sinceMidnight
      rw [hmillis]
      unfold dayMillis
      omega
    refine ⟨?_, ?_⟩
    · rw [date, hday, Int.sub_add_cancel, Date.ofNumber_number hd]
    · unfold hour minute second milli
      omega
  · rintro ⟨rfl, rfl, rfl, rfl, rfl⟩
    rw [ofFields?_date, clockOn_self]

end Logbook.Instant
