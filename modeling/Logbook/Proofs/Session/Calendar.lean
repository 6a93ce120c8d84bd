import Logbook.Proofs.Message.Division
import Logbook.Proofs.Session.Growth
import Logbook.Proofs.Time.Anchoring

/-!
# Sessions on a calendar

Undated records move onto the calendar of the dated ones each time a session reads something. A
record that has become dated stays where it is. One that is still undated after it has moved, since
the earliest date is shortly before 1970, or since the calendar has no room for it, moves again.

* `reconcile_reconcile_iff`: when moving again changes nothing;
* `Session.Steady`, **`steady_iff`**: no reading changes the times of a session just when all of
  them are dated;
* `day_of_undated_reconcile`: which times are undated after they have moved;
* **`reconcile_settles`**: these, for all records and for all sessions.
-/

namespace Logbook

/-! ## Moving records -/

/-- A record with its time moved. -/
def Record.anchor (o : Int) (r : Record) : Record := { r with time := r.time.map (·.anchor o) }

theorem mem_times {t : Instant} {rs : List Record} :
    t ∈ Record.times rs ↔ ∃ r ∈ rs, r.time = some t := List.mem_filterMap

theorem times_append (as bs : List Record) :
    Record.times (as ++ bs) = Record.times as ++ Record.times bs := List.filterMap_append

theorem times_map_anchor (o : Int) (rs : List Record) :
    Record.times (rs.map (Record.anchor o)) = (Record.times rs).map (·.anchor o) := by
  unfold Record.times
  rw [List.filterMap_map, List.map_filterMap]
  rfl

theorem reconcile_of_some {rs : List Record} {o : Int}
    (h : dateOffset? (Record.times rs) = some o) : reconcile rs = rs.map (Record.anchor o) := by
  rw [reconcile, h]
  rfl

theorem reconcile_of_none {rs : List Record} (h : dateOffset? (Record.times rs) = none) :
    reconcile rs = rs := by
  rw [reconcile, h]

theorem Record.anchor_anchor_iff {o : Int} {r : Record} : (r.anchor o).anchor o = r.anchor o ↔
    ∀ t, r.time = some t → (t.anchor o).anchor o = t.anchor o := by
  obtain ⟨log, message, tags, time, line, title, body, id, filename, payload, index⟩ := r
  cases time <;> simp [Record.anchor]

/-! ## The times alone -/

/-- The times of records after they have moved. -/
def reconcileTimes (times : List (Option Instant)) : List (Option Instant) :=
  match dateOffset? times.reduceOption with
  | some o => times.map (Option.map (·.anchor o))
  | none => times

theorem times_eq (rs : List Record) : Record.times rs = (rs.map Record.time).reduceOption := by
  change rs.filterMap Record.time = (rs.map Record.time).filterMap id
  rw [List.filterMap_map]
  rfl

theorem map_time_reconcile (rs : List Record) :
    (reconcile rs).map Record.time = reconcileTimes (rs.map Record.time) := by
  rw [reconcileTimes, ← times_eq]
  cases ho : dateOffset? (Record.times rs) with
  | none => rw [reconcile_of_none ho]
  | some o =>
    simp only [reconcile_of_some ho, List.map_map]
    rfl

theorem map_time_numberFrom (n : Nat) (rs : List Record) :
    (numberFrom n rs).map Record.time = rs.map Record.time := by
  induction rs generalizing n with
  | nil => rfl
  | cons r rs ih => rw [numberFrom, List.map_cons, ih, List.map_cons]

/-! ## Moving again -/

/-- An undated time that moves and is undated again: the earliest date lies before 1970, by no more
days than have passed of 1970. -/
def StaysUndated (ts : List Instant) : Prop :=
  ∃ e t, IsEarliestDate ts e ∧ t ∈ ts ∧ t.isUndated = true ∧ e.day < 0 ∧ 0 ≤ t.day + e.day

/-- **Moving records again** changes nothing just when none of them stays undated. -/
theorem reconcile_reconcile_iff (rs : List Record) :
    reconcile (reconcile rs) = reconcile rs ↔ ¬ StaysUndated (Record.times rs) := by
  cases ho : dateOffset? (Record.times rs) with
  | none =>
    rw [reconcile_of_none ho, reconcile_of_none ho]
    refine iff_of_true rfl fun ⟨e, _, he, _⟩ => ?_
    exact absurd (dateOffset?_eq_none.mp ho e he.mem) (by rw [he.dated]; decide)
  | some o =>
    obtain ⟨e, he, rfl⟩ := dateOffset?_eq_some.mp ho
    have hagain := dateOffset?_map_anchor ho
    rw [← times_map_anchor] at hagain
    rw [reconcile_of_some ho, reconcile_of_some hagain, List.map_map, List.map_inj_left]
    simp only [Function.comp_apply, Record.anchor_anchor_iff, Instant.anchor_anchor_iff he.dated]
    constructor
    · rintro h ⟨e', t, he', ht, hmoves⟩
      obtain rfl := he.unique he'
      obtain ⟨r, hr, hrt⟩ := mem_times.mp ht
      exact h r hr t hrt hmoves
    · exact fun h r hr t hrt hmoves => h ⟨e, t, he, mem_times.mpr ⟨r, hr, hrt⟩, hmoves⟩

/-- A time that is undated after all have moved: the earliest date lies less than a year before
1970, or else the calendar has no room. -/
theorem day_of_undated_reconcile {rs : List Record} {e t : Instant}
    (he : IsEarliestDate (Record.times (reconcile rs)) e) (ht : t ∈ Record.times (reconcile rs))
    (hu : t.isUndated = true) :
    (-365 < e.day ∧ e.day < 0) ∨ lastMillis < t.millis + e.day * dayMillis := by
  cases ho : dateOffset? (Record.times rs) with
  | none =>
    rw [reconcile_of_none ho] at he
    exact absurd (dateOffset?_eq_none.mp ho e he.mem) (by rw [he.dated]; decide)
  | some o =>
    rw [reconcile_of_some ho, times_map_anchor] at he ht
    obtain rfl : e.day * dayMillis = o := Option.some.inj
      ((dateOffset?_eq_some.mpr ⟨e, he, rfl⟩).symm.trans (dateOffset?_map_anchor ho))
    obtain ⟨t₀, ht₀, rfl⟩ := List.mem_map.mp ht
    cases hu₀ : t₀.isUndated with
    | false =>
      rw [Instant.anchor_of_dated hu₀] at hu
      exact absurd (hu₀.symm.trans hu) (by decide)
    | true =>
      by_cases hroom : t₀.millis + e.day * dayMillis ≤ lastMillis
      · have hday := (Instant.isUndated_iff _).mp hu
        rw [Instant.day_anchor hu₀ hroom] at hday
        have hday₀ := (Instant.isUndated_iff t₀).mp hu₀
        have hdated := (Instant.isUndated_eq_false_iff e).mp he.dated
        omega
      · rw [Instant.anchor_of_no_room (Int.not_le.mp hroom)]
        exact .inr (Int.not_le.mp hroom)

/-! ## Times that stay -/

namespace Session

/-- **No reading changes the time** of any record that a session has. -/
def Steady (s : Session) : Prop :=
  ∀ (later : List Reading) (i : Nat) (r : Record), s.records[i]? = some r →
    ∃ r' : Record, (later.foldl read s).records[i]? = some r' ∧ r'.time = r.time

theorem records_read (s : Session) (x : Reading) :
    (s.read x).records = reconcile (s.records ++ numberFrom s.records.length x.records) := by
  rw [read_eq_append]
  rfl

theorem map_time_read (s : Session) (x : Reading) : (s.read x).records.map Record.time =
    reconcileTimes (s.records.map Record.time ++ x.records.map Record.time) := by
  rw [records_read, map_time_reconcile, List.map_append, map_time_numberFrom]

theorem map_time_ofReadings_concat (view : ViewDefaults) (before : List Reading) (x : Reading) :
    (ofReadings view (before ++ [x])).records.map Record.time = reconcileTimes
      ((ofReadings view before).records.map Record.time ++ x.records.map Record.time) := by
  rw [ofReadings, List.foldl_append]
  exact map_time_read _ x

theorem map_time_ofReadings_singleton (view : ViewDefaults) (x : Reading) :
    (ofReadings view [x]).records.map Record.time = reconcileTimes (x.records.map Record.time) :=
  map_time_ofReadings_concat view [] x

/-- A reading leaves a record as it is that is dated or has no time. -/
theorem getElem?_read_of_dated {s : Session} {i : Nat} {r : Record} (hr : s.records[i]? = some r)
    (hdated : ∀ t, r.time = some t → t.isUndated = false) (x : Reading) :
    (s.read x).records[i]? = some r := by
  have hi : i < s.records.length := (List.getElem?_eq_some_iff.mp hr).1
  rw [records_read, reconcile]
  split
  · next o _ =>
    have htime : r.time.map (·.anchor o) = r.time := by
      cases ht : r.time with
      | none => rfl
      | some t => rw [Option.map_some, Instant.anchor_of_dated (hdated t ht)]
    rw [List.getElem?_map, List.getElem?_append_left hi, hr, Option.map_some, htime]
  · rw [List.getElem?_append_left hi, hr]

theorem steady_of_dated {s : Session}
    (h : ∀ t ∈ Record.times s.records, t.isUndated = false) : s.Steady := by
  intro later i r hr
  have hdated : ∀ t, r.time = some t → t.isUndated = false := fun t ht =>
    h t (mem_times.mpr ⟨r, List.mem_of_getElem? hr, ht⟩)
  refine ⟨r, ?_, rfl⟩
  clear h
  induction later generalizing s with
  | nil => exact hr
  | cons x later ih => exact ih (getElem?_read_of_dated hr hdated x)

/-! ## Times that change -/

/-- A file with one message of the first of January 2000. -/
def newCentury : Reading := .file "" "[2000-01-01 00:00:00]"

theorem map_time_file (path text : String) : (Reading.file path text).records.map Record.time =
    filledTimes (((Text.lines text.toList).filter startsMessage).map stampOf) := by
  rw [Reading.records, time_parseLog, ← stamps, stamps_eq]

theorem stamps_newCentury : ((Text.lines "[2000-01-01 00:00:00]".toList).filter startsMessage).map
    stampOf = [some ⟨946684800000, by decide⟩] := by decide +kernel

theorem exists_mem_newCentury (n : Nat) :
    ∃ d ∈ Record.times (numberFrom n newCentury.records), d.isUndated = false ∧ d.day = 10957 := by
  have htimes : (numberFrom n newCentury.records).map Record.time
      = [some ⟨946684800000, by decide⟩] := by
    rw [map_time_numberFrom, newCentury, map_time_file, stamps_newCentury]
    rfl
  refine ⟨⟨946684800000, by decide⟩, ?_, by decide, by decide⟩
  rw [mem_times]
  obtain ⟨r, hr, ht⟩ := List.mem_map.mp (htimes ▸ List.mem_singleton_self _)
  exact ⟨r, hr, ht⟩

theorem time_read_newCentury {s : Session} {i : Nat} {r : Record} {t : Instant}
    (hr : s.records[i]? = some r) (ht : r.time = some t) (hu : t.isUndated = true) :
    ∃ r', (s.read newCentury).records[i]? = some r' ∧ r'.time ≠ some t := by
  obtain ⟨d, hd, hdated, hday⟩ := exists_mem_newCentury s.records.length
  have hmem : d ∈ Record.times (s.records ++ numberFrom s.records.length newCentury.records) := by
    rw [times_append]
    exact List.mem_append_right _ hd
  -- The earliest date may be another one, but then there is room all the more.
  obtain ⟨e, he⟩ := exists_isEarliestDate hmem hdated
  have hle := Instant.day_le_day (he.le d hmem hdated)
  have hundated := (Instant.isUndated_iff t).mp hu
  have hroom : t.millis + e.day * dayMillis ≤ lastMillis := by
    unfold Instant.day dayMillis lastMillis at *
    omega
  have hmoved := Instant.day_anchor hu hroom
  have hi : i < s.records.length := (List.getElem?_eq_some_iff.mp hr).1
  refine ⟨r.anchor (e.day * dayMillis), ?_, fun h => ?_⟩
  · rw [records_read, reconcile_of_some (dateOffset?_eq_some.mpr ⟨e, he, rfl⟩), List.getElem?_map,
      List.getElem?_append_left hi, hr, Option.map_some]
  · rw [Record.anchor, ht, Option.map_some] at h
    have hdated := (Instant.isUndated_eq_false_iff e).mp he.dated
    rw [Option.some.inj h] at hmoved
    omega

/-- **A session is steady** just when all its times are dated. -/
theorem steady_iff (s : Session) :
    s.Steady ↔ ∀ t ∈ Record.times s.records, t.isUndated = false := by
  refine ⟨fun h t ht => ?_, steady_of_dated⟩
  obtain ⟨r, hr, hrt⟩ := mem_times.mp ht
  obtain ⟨i, hi⟩ := List.getElem?_of_mem hr
  cases hu : t.isUndated with
  | false => rfl
  | true =>
    obtain ⟨r₁, hr₁, hchanged⟩ := time_read_newCentury hi hrt hu
    obtain ⟨r₂, hr₂, hsame⟩ := h [newCentury] i r hi
    obtain rfl := Option.some.inj (hr₁.symm.trans hr₂)
    exact absurd (hsame.trans hrt) hchanged

/-! ## Sessions that have read -/

theorem exists_records_eq_reconcile (view : ViewDefaults) (readings : List Reading) :
    ∃ rs, (ofReadings view readings).records = reconcile rs := by
  rcases List.eq_nil_or_concat readings with rfl | ⟨before, x, rfl⟩
  · exact ⟨[], rfl⟩
  · rw [List.concat_eq_append, ofReadings, List.foldl_append]
    exact ⟨_, records_read _ x⟩

/-- A session is steady once its earliest date lies neither in 1969 nor in the last year. -/
theorem steady_ofReadings {view : ViewDefaults} {readings : List Reading} {e : Instant}
    (he : IsEarliestDate (Record.times (ofReadings view readings).records) e)
    (hfirst : e.year ≠ 1969) (hlast : e.year ≠ Instant.lastYear) :
    (ofReadings view readings).Steady := by
  obtain ⟨rs, hrs⟩ := exists_records_eq_reconcile view readings
  refine steady_of_dated fun t ht => ?_
  rw [hrs] at he ht
  cases hu : t.isUndated with
  | false => rfl
  | true =>
    rcases day_of_undated_reconcile he ht hu with ⟨hlo, hhi⟩ | hroom
    · exact absurd (Instant.year_eq_1969 (Int.le_of_lt hlo) hhi) hfirst
    · have hday := (Instant.isUndated_iff t).mp hu
      refine absurd (Instant.year_eq_lastYear ?_) hlast
      unfold Instant.day dayMillis lastMillis at *
      omega

end Session

/-- **Moving records settles them**, but for those that stay undated. Moving any records again
changes nothing just when none stays undated. Whatever a session has read, nothing that it reads
later changes its times just when they are all dated; and they are, once the earliest date is not in
1969 and not in the last year of the calendar. -/
theorem reconcile_settles (rs : List Record) (view : ViewDefaults) (readings : List Reading) :
    (reconcile (reconcile rs) = reconcile rs ↔ ¬ StaysUndated (Record.times rs)) ∧
      ((Session.ofReadings view readings).Steady ↔
        ∀ t ∈ Record.times (Session.ofReadings view readings).records, t.isUndated = false) ∧
      ∀ e, IsEarliestDate (Record.times (Session.ofReadings view readings).records) e →
        e.year ≠ 1969 → e.year ≠ Instant.lastYear → (Session.ofReadings view readings).Steady :=
  ⟨reconcile_reconcile_iff rs, Session.steady_iff _, fun _ he hfirst hlast =>
    Session.steady_ofReadings he hfirst hlast⟩

/-- An undated record that comes ahead of a dated one moves onto its day, and stays there. -/
theorem reconcile_settles_november :
    let s := Session.ofReadings {} [.file "day.log" "[05:00:00] a\n[2021-11-12 06:53:11] b"]
    ∃ e, IsEarliestDate (Record.times s.records) e ∧ e.year ≠ 1969 ∧ e.year ≠ Instant.lastYear ∧
      s.Steady := by
  intro s
  have htimes : s.records.map Record.time
      = [some ⟨1636693200000, by decide⟩, some ⟨1636699991000, by decide⟩] := by
    rw [Session.map_time_ofReadings_singleton, Session.map_time_file]
    decide +kernel
  have he : IsEarliestDate (Record.times s.records) ⟨1636693200000, by decide⟩ := by
    refine isEarliestDate_of_earliest? ?_
    rw [times_eq, htimes]
    decide +kernel
  refine ⟨_, he, by decide +kernel, by decide +kernel, ?_⟩
  exact (reconcile_settles [] {} _).2.2 _ he (by decide +kernel) (by decide +kernel)

/-- Three records of the turn of the year 1969, the last two without a date. -/
def newYear : Reading := .file "old.log" "[1969-12-31 10:00:00] a\n[10:00:00] b\n[09:00:00] c"

/-- **An undated record moves again and again** when the earliest date is the last day of 1969: from
the second to the first of January 1970, and with the next file on to that last day, although the
session has had a dated record and that file brings none. -/
theorem newYear_moves_again :
    (Session.ofReadings {} [newYear]).records.map Record.time =
        [Instant.ofMillis? (-50400000), Instant.ofMillis? (-50400000), Instant.ofMillis? 32400000] ∧
      (Session.ofReadings {} [newYear, .file "empty.log" ""]).records.map Record.time =
        [Instant.ofMillis? (-50400000), Instant.ofMillis? (-50400000),
          Instant.ofMillis? (-54000000)] ∧
      reconcile (reconcile newYear.records) ≠ reconcile newYear.records := by
  have hfirst : (Session.ofReadings {} [newYear]).records.map Record.time =
      [Instant.ofMillis? (-50400000), Instant.ofMillis? (-50400000),
        Instant.ofMillis? 32400000] := by
    rw [Session.map_time_ofReadings_singleton, newYear, Session.map_time_file]
    decide +kernel
  refine ⟨hfirst, ?_, fun h => ?_⟩
  · rw [← List.singleton_append, Session.map_time_ofReadings_concat, hfirst, Session.map_time_file]
    decide +kernel
  · have htimes := congrArg (List.map Record.time) h
    rw [map_time_reconcile, map_time_reconcile, newYear, Session.map_time_file] at htimes
    revert htimes
    decide +kernel

end Logbook
