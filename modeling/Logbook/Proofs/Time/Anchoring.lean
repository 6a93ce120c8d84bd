import Logbook.Proofs.Time.Years
import Logbook.Time.Anchor

/-!
# Moving undated instants onto a calendar

* `earliest?_eq_some`: the earliest of some instants;
* `IsEarliestDate`, `dateOffset?_eq_some`: the earliest dated one, up to which undated ones move;
* `day_anchor`, `anchor_of_no_room`: an undated instant moves by the days to that date, or stays
  where the calendar ends;
* **`dateOffset?_map_anchor`**: moving again goes as far as the first time;
* **`anchor_anchor_iff`**: when moving again changes nothing.
-/

namespace Logbook

namespace Instant

protected theorem le_refl (t : Instant) : t ≤ t := Int.le_refl t.millis

protected theorem le_trans {a b c : Instant} (hab : a ≤ b) (hbc : b ≤ c) : a ≤ c :=
  Int.le_trans hab hbc

theorem day_le_day {a b : Instant} (h : a ≤ b) : a.day ≤ b.day := by
  have hmillis : a.millis ≤ b.millis := h
  unfold day dayMillis
  omega

theorem min_le_left (a b : Instant) : a.min b ≤ a := by
  unfold min
  split
  · exact Instant.le_refl a
  · next h => exact Int.le_of_lt (Int.not_le.mp h)

theorem min_le_right (a b : Instant) : a.min b ≤ b := by
  unfold min
  split
  · assumption
  · exact Instant.le_refl b

theorem min_eq_or (a b : Instant) : a.min b = a ∨ a.min b = b := by
  unfold min
  split
  · exact .inl rfl
  · exact .inr rfl

end Instant

/-! ## The earliest date -/

theorem earliest?_eq_none {ts : List Instant} : earliest? ts = none ↔ ts = [] := by
  cases ts with
  | nil => simp [earliest?]
  | cons t ts => cases h : earliest? ts <;> simp [earliest?, h]

theorem of_earliest?_eq_some {ts : List Instant} {m : Instant} (h : earliest? ts = some m) :
    m ∈ ts ∧ ∀ t ∈ ts, m ≤ t := by
  induction ts generalizing m with
  | nil => exact absurd h (by simp [earliest?])
  | cons t ts ih =>
    cases hts : earliest? ts with
    | none =>
      rw [earliest?, hts] at h
      obtain rfl := Option.some.inj h
      obtain rfl := earliest?_eq_none.mp hts
      exact ⟨List.mem_cons_self, fun u hu => List.mem_singleton.mp hu ▸ Instant.le_refl _⟩
    | some u =>
      rw [earliest?, hts] at h
      obtain rfl := Option.some.inj h
      obtain ⟨hmem, hle⟩ := ih hts
      refine ⟨?_, fun v hv => ?_⟩
      · rcases Instant.min_eq_or t u with heq | heq
        · rw [heq]; exact List.mem_cons_self
        · rw [heq]; exact List.mem_cons_of_mem t hmem
      · rcases List.mem_cons.mp hv with rfl | hv
        · exact Instant.min_le_left v u
        · exact Instant.le_trans (Instant.min_le_right t u) (hle v hv)

/-- The earliest of the dated instants among some. -/
structure IsEarliestDate (ts : List Instant) (e : Instant) : Prop where
  mem : e ∈ ts
  dated : e.isUndated = false
  le : ∀ t ∈ ts, t.isUndated = false → e ≤ t

theorem isEarliestDate_of_earliest? {ts : List Instant} {e : Instant}
    (h : earliest? (ts.filter fun t => !t.isUndated) = some e) : IsEarliestDate ts e := by
  obtain ⟨hmem, hle⟩ := of_earliest?_eq_some h
  simp only [List.mem_filter, Bool.not_eq_true', and_imp] at hmem hle
  exact ⟨hmem.1, hmem.2, hle⟩

theorem exists_isEarliestDate {ts : List Instant} {t : Instant} (ht : t ∈ ts)
    (hdated : t.isUndated = false) : ∃ e, IsEarliestDate ts e := by
  have hmem : t ∈ ts.filter fun t => !t.isUndated := by simp [ht, hdated]
  cases he : earliest? (ts.filter fun t => !t.isUndated) with
  | none => exact absurd hmem (earliest?_eq_none.mp he ▸ List.not_mem_nil)
  | some e => exact ⟨e, isEarliestDate_of_earliest? he⟩

theorem IsEarliestDate.unique {ts : List Instant} {e e' : Instant} (h : IsEarliestDate ts e)
    (h' : IsEarliestDate ts e') : e = e' :=
  Instant.ext_millis (Int.le_antisymm (h.le e' h'.mem h'.dated) (h'.le e h.mem h.dated))

/-- Undated instants move by the days from the start of 1970 to the earliest date. -/
theorem dateOffset?_eq_some {ts : List Instant} {o : Int} :
    dateOffset? ts = some o ↔ ∃ e, IsEarliestDate ts e ∧ e.day * dayMillis = o := by
  rw [dateOffset?, Option.map_eq_some_iff]
  constructor
  · rintro ⟨e, he, ho⟩
    exact ⟨e, isEarliestDate_of_earliest? he, ho⟩
  · rintro ⟨e, he, ho⟩
    cases he' : earliest? (ts.filter fun t => !t.isUndated) with
    | none =>
      have hmem : e ∈ ts.filter fun t => !t.isUndated := by simp [he.mem, he.dated]
      exact absurd hmem (earliest?_eq_none.mp he' ▸ List.not_mem_nil)
    | some e' => exact ⟨e', rfl, he.unique (isEarliestDate_of_earliest? he') ▸ ho⟩

theorem dateOffset?_eq_none {ts : List Instant} :
    dateOffset? ts = none ↔ ∀ t ∈ ts, t.isUndated = true := by
  rw [dateOffset?, Option.map_eq_none_iff, earliest?_eq_none, List.filter_eq_nil_iff]
  simp

/-! ## Moving -/

namespace Instant

variable {t e : Instant}

theorem anchor_of_undated (ht : t.isUndated = true)
    (hroom : t.millis + e.day * dayMillis ≤ lastMillis) :
    (t.anchor (e.day * dayMillis)).millis = t.millis + e.day * dayMillis := by
  have hlo : firstMillis ≤ t.millis + e.day * dayMillis := by
    have he : firstMillis ≤ e.day * dayMillis := e.midnight.inCalendar.1
    have ht := (isUndated_iff t).mp ht
    unfold day dayMillis at ht
    omega
  rw [anchor, if_pos ht, add?, ofMillis?, dif_pos ⟨hlo, hroom⟩]
  rfl

theorem day_anchor (ht : t.isUndated = true)
    (hroom : t.millis + e.day * dayMillis ≤ lastMillis) :
    (t.anchor (e.day * dayMillis)).day = t.day + e.day := by
  rw [day, anchor_of_undated ht hroom, Int.add_mul_ediv_right _ _ (by decide)]
  rfl

/-- An undated instant stays where the calendar ends before. -/
theorem anchor_of_no_room {o : Int} (hroom : lastMillis < t.millis + o) : t.anchor o = t := by
  rw [anchor, add?, ofMillis?, dif_neg fun h => Int.not_le.mpr hroom h.2, Option.getD_none,
    ite_self]

/-- No instant moves ahead of the day of the earliest date, unless it stays undated. -/
theorem day_le_day_anchor (hle : t.isUndated = false → e ≤ t)
    (h : (t.anchor (e.day * dayMillis)).isUndated = false) :
    e.day ≤ (t.anchor (e.day * dayMillis)).day := by
  cases ht : t.isUndated with
  | false =>
    rw [anchor_of_dated ht]
    exact day_le_day (hle ht)
  | true =>
    by_cases hroom : t.millis + e.day * dayMillis ≤ lastMillis
    · have hday := (isUndated_iff t).mp ht
      rw [day_anchor ht hroom]
      omega
    · rw [anchor_of_no_room (Int.not_le.mp hroom)] at h
      exact absurd (ht.symm.trans h) (by decide)

/-- **Moving again changes nothing** but for an undated instant that moves back by fewer days than
have passed of 1970, and so stays in that year. -/
theorem anchor_anchor_iff (he : e.isUndated = false) :
    (t.anchor (e.day * dayMillis)).anchor (e.day * dayMillis) = t.anchor (e.day * dayMillis) ↔
      ¬ (t.isUndated = true ∧ e.day < 0 ∧ 0 ≤ t.day + e.day) := by
  have hdated := (isUndated_eq_false_iff e).mp he
  cases ht : t.isUndated with
  | false => simp [anchor_of_dated ht]
  | true =>
    have hday := (isUndated_iff t).mp ht
    by_cases hroom : t.millis + e.day * dayMillis ≤ lastMillis
    · have hmoved := day_anchor ht hroom
      cases hu : (t.anchor (e.day * dayMillis)).isUndated with
      | false =>
        have hu' := (isUndated_eq_false_iff _).mp hu
        rw [anchor_of_dated hu]
        simp only [true_and, true_iff, not_and]
        omega
      | true =>
        have hu' := (isUndated_iff _).mp hu
        -- The moved instant is of 1970 as well, so the date is before 1970 and there is room.
        have hroom' : (t.anchor (e.day * dayMillis)).millis + e.day * dayMillis ≤ lastMillis := by
          have := (t.anchor (e.day * dayMillis)).inCalendar.2
          have : e.day * dayMillis ≤ 0 := Int.mul_nonpos_of_nonpos_of_nonneg (by omega) (by decide)
          omega
        have hagain := day_anchor hu hroom'
        simp only [true_and]
        constructor
        · intro heq
          rw [heq] at hagain
          omega
        · intro hneg
          omega
    · rw [anchor_of_no_room (Int.not_le.mp hroom), anchor_of_no_room (Int.not_le.mp hroom)]
      have : ¬ e.day < 0 := fun hneg => hroom <| by
        have := t.inCalendar.2
        have : e.day * dayMillis ≤ 0 := Int.mul_nonpos_of_nonpos_of_nonneg (by omega) (by decide)
        omega
      simp [this]

end Instant

/-- **Moving again goes as far**: the earliest date is of the same day when all have moved. -/
theorem dateOffset?_map_anchor {ts : List Instant} {o : Int} (h : dateOffset? ts = some o) :
    dateOffset? (ts.map (·.anchor o)) = some o := by
  obtain ⟨e, he, rfl⟩ := dateOffset?_eq_some.mp h
  have hmem : e ∈ ts.map (·.anchor (e.day * dayMillis)) :=
    List.mem_map.mpr ⟨e, he.mem, Instant.anchor_of_dated he.dated _⟩
  obtain ⟨e', he'⟩ := exists_isEarliestDate hmem he.dated
  obtain ⟨t, ht, hmoved⟩ := List.mem_map.mp he'.mem
  have hday : e'.day = e.day := by
    refine Int.le_antisymm (Instant.day_le_day (he'.le e hmem he.dated)) ?_
    rw [← hmoved]
    exact Instant.day_le_day_anchor (he.le t ht) (hmoved ▸ he'.dated)
  exact dateOffset?_eq_some.mpr ⟨e', he', by rw [hday]⟩

end Logbook
