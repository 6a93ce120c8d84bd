import Mathlib.Data.Bool.AllAny
import Mathlib.Logic.Function.Defs
import Logbook.Message.Record
import Logbook.Proofs.Time.Dates
import Logbook.Proofs.Time.Stamps
import Logbook.Time.Control

/-!
# Controls that are written and read

A control written for an instant has its time of day and the days from the reference date to it.

* `Instant.clockOn`: the time of day of one instant on the date of another;
* `Control.clockText`, `Control.daysText`, `Control.format_eq`: the two parts of a control;
* `Control.clock?_append`, `Control.dayOffset?_daysText`: each is read as it was written;
* `Control.parse_format`: so is the whole;
* **`Control.parse_format_referenceDate`**: for records of which one has a time, what is written for
  an instant is read as that instant, and what is read of it is written the same way.
-/

namespace Logbook

/-! ## The time of day -/

namespace Instant

variable (t r : Instant)

theorem sinceMidnight_lt : t.sinceMidnight < 86400000 := by
  unfold sinceMidnight dayMillis
  omega

theorem day_add_sinceMidnight : t.day * dayMillis + t.sinceMidnight = t.millis := by
  unfold day sinceMidnight dayMillis
  omega

/-- The time of day of `t` on the date of `r`. -/
def clockOn : Instant :=
  ⟨r.day * dayMillis + t.sinceMidnight, by
    have h := r.inCalendar
    have hclock := t.sinceMidnight_lt
    unfold day dayMillis firstMillis lastMillis at *
    omega⟩

theorem ofFields?_date :
    ofFields? r.date t.hour t.minute t.second t.milli = some (t.clockOn r) := by
  have hyear := r.year_inCalendar
  have hclock := t.sinceMidnight_lt
  have hsum :
      t.hour * 3600000 + t.minute * 60000 + t.second * 1000 + t.milli = t.sinceMidnight := by
    unfold hour minute second milli
    omega
  have hfields : r.date.Valid ∧ firstYear ≤ r.date.year ∧ r.date.year ≤ lastYear ∧ t.hour < 24 ∧
      t.minute < 60 ∧ t.second < 60 ∧ t.milli < 1000 := by
    refine ⟨Date.valid_ofNumber _, hyear.1, hyear.2, ?_⟩
    unfold hour minute second milli
    omega
  have hnumber : r.date.number - Date.epoch = r.day := by
    rw [date, Date.number_ofNumber]
    omega
  rw [ofFields?, if_pos hfields, hsum, hnumber]
  exact dif_pos (t.clockOn r).inCalendar

theorem add?_zero : t.add? 0 = some t := by
  rw [add?, Int.add_zero]
  exact dif_pos t.inCalendar

theorem add?_clockOn : (t.clockOn r).add? ((t.day - r.day) * dayMillis) = some t := by
  have hclock : (t.clockOn r).millis = r.day * dayMillis + t.sinceMidnight := rfl
  have hmillis : (t.clockOn r).millis + (t.day - r.day) * dayMillis = t.millis := by
    rw [hclock, Int.sub_mul, ← t.day_add_sinceMidnight]
    omega
  rw [add?, hmillis]
  exact dif_pos t.inCalendar

/-- No two days of the calendar lie further apart than a number of 32 bits can say. -/
theorem natAbs_day_sub_day_lt : (t.day - r.day).natAbs < 0x100000000 := by
  have ht := t.inCalendar
  have hr := r.inCalendar
  unfold day dayMillis firstMillis lastMillis at *
  omega

end Instant

/-! ## Digits of a stamp -/

namespace Stamp

variable {ds tail : List Char} {n : Nat}

theorem digitRun?_append (h : Text.Writes ds n)
    (htail : ∀ c ∈ tail.head?, Text.isDecimal c = false) :
    digitRun? (ds ++ tail) = some (ds, tail) :=
  digitRun?_eq_some_iff.mpr ⟨⟨h.ne_nil, h.isDecimal⟩, rfl, htail⟩

theorem digits?_append (h : Text.Writes ds n) :
    digits? ds.length (ds ++ tail) = some (ds, tail) :=
  digits?_eq_some_iff.mpr ⟨⟨rfl, h.isDecimal⟩, rfl⟩

theorem isDecimal_colon (cs : List Char) :
    ∀ c ∈ (':' :: cs).head?, Text.isDecimal c = false := by
  rintro c ⟨⟩
  decide

theorem looseTime?_append {hh mm ss : List Char} {h m s : Nat} (hhh : Text.Writes hh h)
    (hmm : Text.Writes mm m) (hss : Text.Writes ss s)
    (htail : ∀ c ∈ tail.head?, Text.isDecimal c = false) :
    looseTime? (hh ++ ':' :: (mm ++ ':' :: (ss ++ tail))) =
      some ({ hour := hh, minute := mm, second := ss }, tail) := by
  simp only [looseTime?, digitRun?_append hhh (isDecimal_colon _),
    digitRun?_append hmm (isDecimal_colon _), digitRun?_append hss htail, char?,
    Option.bind_eq_bind, Option.bind_some, if_true]

theorem number?_of_writes (h : Text.Writes ds n) (hn : n < 0x100000000) : number? ds = some n :=
  h.readBounded? hn

end Stamp

/-! ## The parts of a control -/

namespace Control

open Stamp (digits? digitRun? char? number?)

/-- The time of day as a control has it. -/
def clockText (t : Instant) : List Char :=
  t.compact ++ if t.milli = 0 then [] else '.' :: Text.padded 3 t.milli

/-- A number of days as a control has it. -/
def daysText (days : Int) : List Char :=
  if days = 0 then []
  else ' ' :: '(' :: (if 0 < days then '+' else '-') ::
    (Text.decimal days.natAbs ++ (if days.natAbs = 1 then "day" else "days").toList ++ [')'])

theorem format_eq (t r : Instant) :
    format t (some r) = String.ofList (clockText t ++ daysText (t.day - r.day)) := by
  by_cases hdays : t.day - r.day = 0
  · simp only [format, clockText, daysText, if_pos hdays, List.append_nil]
  · simp only [format, clockText, daysText, if_neg hdays, Int.sub_pos]

theorem space_le_clockText (t : Instant) : ∀ c ∈ clockText t, ' ' ≤ c := by
  have hpadded (width n : Nat) := (Text.writes_padded width n).space_le
  have hcolon : ' ' ≤ ':' := by decide
  have hpoint : ' ' ≤ '.' := by decide
  unfold clockText Instant.compact
  simp only [List.forall_mem_append, List.forall_mem_cons]
  refine ⟨⟨hpadded _ _, hcolon, hpadded _ _, hcolon, hpadded _ _⟩, ?_⟩
  split
  · exact fun _ h => absurd h List.not_mem_nil
  · exact List.forall_mem_cons.2 ⟨hpoint, hpadded _ _⟩

/-- The stamp of a time of day. -/
def clockStamp (t : Instant) : Stamp :=
  { hour := Text.padded 2 t.hour
    minute := Text.padded 2 t.minute
    second := Text.padded 2 t.second
    milli := if t.milli = 0 then none else some (Text.padded 3 t.milli) }

theorem optionalMillis_padded {n : Nat} (hn : n < 1000) (tail : List Char) :
    optionalMillis ('.' :: (Text.padded 3 n ++ tail)) = (some (Text.padded 3 n), tail) := by
  have hlen : (Text.padded 3 n).length = 3 := Text.length_padded (by decide) hn
  have hdigits : digits? (Text.padded 3 n).length (Text.padded 3 n ++ tail) =
      some (Text.padded 3 n, tail) := Stamp.digits?_append (Text.writes_padded 3 n)
  rw [hlen] at hdigits
  simp only [optionalMillis, hdigits]

theorem optionalMillis_of_space {tail : List Char} (htail : ∀ c ∈ tail.head?, c = ' ') :
    optionalMillis tail = (none, tail) := by
  unfold optionalMillis
  split
  · exact absurd (htail '.' rfl) (by decide)
  · rfl

theorem clock?_append (t : Instant) {tail : List Char} (htail : ∀ c ∈ tail.head?, c = ' ')
    (hline : '\n' ∉ tail) : clock? (clockText t ++ tail) = some (clockStamp t, tail) := by
  have hmilli : t.milli < 1000 := Nat.mod_lt _ (by decide)
  have hline' : tail.contains '\n' = false := by simpa using hline
  unfold clock? clockText clockStamp Instant.compact
  simp only [List.append_assoc, List.cons_append]
  rw [Stamp.looseTime?_append (Text.writes_padded 2 _) (Text.writes_padded 2 _)
    (Text.writes_padded 2 _)]
  · split
    · next hzero =>
      simp only [Option.bind_eq_bind, Option.bind_some, List.nil_append,
        optionalMillis_of_space htail, hline', Bool.false_eq_true, if_false]
    · next hzero =>
      simp only [Option.bind_eq_bind, Option.bind_some, List.cons_append,
        optionalMillis_padded hmilli, hline', Bool.false_eq_true, if_false]
  · split
    · intro c hc
      rw [htail c hc]
      decide
    · rintro c ⟨⟩
      decide

theorem onDate?_clockStamp (t r : Instant) : onDate? (clockStamp t) r = some (t.clockOn r) := by
  have hclock := t.sinceMidnight_lt
  have hhour : number? (Text.padded 2 t.hour) = some t.hour :=
    Stamp.number?_of_writes (Text.writes_padded 2 _) (by unfold Instant.hour; omega)
  have hminute : number? (Text.padded 2 t.minute) = some t.minute :=
    Stamp.number?_of_writes (Text.writes_padded 2 _) (by unfold Instant.minute; omega)
  have hsecond : number? (Text.padded 2 t.second) = some t.second :=
    Stamp.number?_of_writes (Text.writes_padded 2 _) (by unfold Instant.second; omega)
  have hmilli : Stamp.numberOr? 0 (clockStamp t).milli = some t.milli := by
    unfold clockStamp
    split
    · next hzero => rw [hzero]; rfl
    · exact Stamp.number?_of_writes (Text.writes_padded 3 _) (by unfold Instant.milli; omega)
  rw [onDate?, hmilli]
  simp only [clockStamp, hhour, hminute, hsecond, Option.bind_eq_bind, Option.bind_some]
  exact t.ofFields?_date r

/-! ## The days -/

theorem space_of_mem_head?_daysText (days : Int) : ∀ c ∈ (daysText days).head?, c = ' ' := by
  unfold daysText
  split
  · simp
  · simp

theorem space_le_daysText (days : Int) : ∀ c ∈ daysText days, ' ' ≤ c := by
  have hdigits := (Text.writes_decimal days.natAbs).space_le
  unfold daysText
  split
  · exact fun _ h => absurd h List.not_mem_nil
  · simp only [List.forall_mem_cons, List.forall_mem_append]
    refine ⟨by decide, by decide, ?_, ⟨hdigits, ?_⟩, by decide, List.forall_mem_nil _⟩
    · split <;> decide
    · split <;> exact List.all_iff_forall_prop.1 rfl

theorem not_mem_daysText (days : Int) : '\n' ∉ daysText days :=
  fun h => absurd (space_le_daysText days _ h) (by decide)

/-- What is written for an instant has no character below the space. -/
theorem space_le_format (t : Instant) (reference : Option Instant) :
    ∀ c ∈ (format t reference).toList, ' ' ≤ c := by
  cases reference with
  | none =>
    rw [format, String.toList_ofList]
    exact space_le_clockText t
  | some d =>
    rw [format_eq, String.toList_ofList, List.forall_mem_append]
    exact ⟨space_le_clockText t, space_le_daysText _⟩

theorem dayOffset?_daysText {days : Int} (hdays : days ≠ 0) :
    dayOffset? (daysText days) = some (decide (days < 0), Text.decimal days.natAbs) := by
  have hsign : ∀ cs,
      sign? ((if 0 < days then '+' else '-') :: cs) = some (decide (days < 0), cs) := by
    intro cs
    split
    · next hpos => rw [decide_eq_false (by omega)]; rfl
    · next hneg => rw [decide_eq_true (by omega)]; rfl
  generalize hword : (if days.natAbs = 1 then "day" else "days") = word
  have hwords : word = "day" ∨ word = "days" := by
    rw [← hword]
    split
    · exact .inl rfl
    · exact .inr rfl
  have hletter : ∀ c ∈ (word.toList ++ [')']).head?, Text.isDecimal c = false := by
    intro c hc
    rcases hwords with rfl | rfl
    · cases hc
      rfl
    · cases hc
      rfl
  have hknown : (dayWords.any fun w => dropSpace (word.toList ++ [')']) == w ++ [')']) = true := by
    rcases hwords with rfl | rfl
    · decide
    · decide
  rw [daysText, if_neg hdays, hword, List.append_assoc]
  simp only [dayOffset?, char?, if_true, Option.bind_eq_bind, Option.bind_some, hsign,
    Option.getD_some, Stamp.digitRun?_append (Text.writes_decimal _) hletter, hknown]

theorem shift_of_writes {t u : Instant} {ds : List Char} {back : Bool} {n : Nat} {unit : Int}
    (h : Text.Writes ds n) (hn : n < 0x100000000)
    (hu : t.add? ((if back then -(n : Int) else n) * unit) = some u) :
    shift t back ds unit = .ok (some u) := by
  have hnumber : number? ds = some n := Stamp.number?_of_writes h hn
  have hstep :
      (if back then -(n * unit) else n * unit) = (if back then -(n : Int) else n) * unit := by
    split
    · rw [Int.neg_mul]
    · rfl
  unfold shift
  rw [hnumber]
  simp only [orError, bind, Except.bind, hstep, hu, pure, Except.pure]

/-! ## Reading what was written -/

theorem parse_of_clock {text : String} {ds tail : List Char} {n : Nat} (h : Text.Writes ds n)
    (hlen : ds.length = 2) (htext : text.toList = ds ++ ':' :: tail)
    (reference other : Option Instant) :
    parse text reference other = parseClock (ds ++ ':' :: tail) reference := by
  obtain ⟨c, cs, hcons, hc⟩ := h.exists_cons
  have hthree : digits? 3 (ds ++ ':' :: tail) = none := by
    have hcolon : Text.isDecimal ':' = false := by decide
    simp [digits?, List.take_append, hlen, hcolon]
  have hdate : startsWithDate (ds ++ ':' :: tail) = false := by
    rw [startsWithDate, hthree, Stamp.digitRun?_append h (Stamp.isDecimal_colon tail)]
    rfl
  rw [hcons, List.cons_append] at htext hdate ⊢
  simp only [parse, htext, hdate, hc, Bool.false_eq_true, if_false, if_true]

theorem parseClock_format (t r : Instant) :
    parseClock (clockText t ++ daysText (t.day - r.day)) (some r) = .ok (some t) := by
  have hclock := clock?_append t (space_of_mem_head?_daysText (t.day - r.day)) (not_mem_daysText _)
  have hmoved := t.add?_clockOn r
  unfold parseClock
  rw [hclock]
  simp only [orError, bind, Except.bind, onDate?_clockStamp]
  by_cases hdays : t.day - r.day = 0
  · rw [hdays, Int.zero_mul, Instant.add?_zero] at hmoved
    have hsame : t.clockOn r = t := Option.some.inj hmoved
    simp only [daysText, if_pos hdays, List.isEmpty_nil, if_true, hsame, pure, Except.pure]
  · have hstep : (if decide (t.day - r.day < 0) then -((t.day - r.day).natAbs : Int)
        else (t.day - r.day).natAbs) = t.day - r.day := by
      split
      · next hneg => have := of_decide_eq_true hneg; omega
      · next hneg => have := of_decide_eq_false (Bool.eq_false_iff.mpr hneg); omega
    have hne : (daysText (t.day - r.day)).isEmpty = false := by
      rw [daysText, if_neg hdays]
      rfl
    simp only [hne, Bool.false_eq_true, if_false, dayOffset?_daysText hdays]
    exact shift_of_writes (Text.writes_decimal _) (t.natAbs_day_sub_day_lt r)
      (by rw [hstep, hmoved])

/-- A control that is written for an instant is read as that instant, whatever the other end. -/
theorem parse_format (t r : Instant) (other : Option Instant) :
    parse (format t (some r)) (some r) other = .ok (some t) := by
  have hhour : (Text.padded 2 t.hour).length = 2 := by
    have := t.sinceMidnight_lt
    have hlt : t.hour < 100 := by
      unfold Instant.hour
      omega
    exact Text.length_padded (by decide) hlt
  have htext : clockText t ++ daysText (t.day - r.day) = Text.padded 2 t.hour ++ ':' ::
      (Text.padded 2 t.minute ++ ':' :: (Text.padded 2 t.second ++
        ((if t.milli = 0 then [] else '.' :: Text.padded 3 t.milli) ++
          daysText (t.day - r.day)))) := by
    simp only [clockText, Instant.compact, List.append_assoc, List.cons_append]
  rw [parse_of_clock (Text.writes_padded 2 _) hhour
    (by rw [format_eq, String.toList_ofList, htext]) (some r) other, ← htext, parseClock_format]

theorem exists_referenceDate_eq_some {rs : List Record} (h : ∃ r ∈ rs, r.time.isSome = true) :
    ∃ date, referenceDate (Record.times rs) = some date := by
  obtain ⟨r, hr, htime⟩ := h
  obtain ⟨t, ht⟩ := Option.isSome_iff_exists.mp htime
  have hmem : t ∈ Record.times rs := List.mem_filterMap.mpr ⟨r, hr, ht⟩
  obtain ⟨first, rest, hcons⟩ := List.exists_cons_of_ne_nil (List.ne_nil_of_mem hmem)
  rw [hcons, referenceDate, List.head?_cons]
  cases (first :: rest).find? fun t => !t.isUndated with
  | none => exact ⟨_, rfl⟩
  | some dated => exact ⟨_, rfl⟩

/-- **Controls lead back**: where a record has a time, every instant is read again from the control
written for it. So no two instants have one control, and a control that was written stays as it is
when it is read and written again. -/
theorem parse_format_referenceDate (rs : List Record) (h : ∃ r ∈ rs, r.time.isSome = true) :
    let reference := referenceDate (Record.times rs)
    (∀ t other, parse (format t reference) reference other = .ok (some t)) ∧
      (Function.Injective fun t => format t reference) ∧
      ∀ text, (∃ t, format t reference = text) → ∀ other,
        ∃ u, parse text reference other = .ok (some u) ∧ format u reference = text := by
  obtain ⟨date, hdate⟩ := exists_referenceDate_eq_some h
  intro reference
  have hread : ∀ t other, parse (format t reference) reference other = .ok (some t) := by
    intro t other
    rw [show reference = some date from hdate]
    exact parse_format t date other
  refine ⟨hread, fun t u htext => ?_, ?_⟩
  · have hu := hread u none
    rw [← show format t reference = format u reference from htext, hread t none] at hu
    exact Option.some.inj (Except.ok.inj hu)
  · rintro text ⟨t, rfl⟩ other
    exact ⟨t, hread t other, rfl⟩

/-- The last instant of the calendar, written for a record of November 2021 and an undated one. -/
theorem parse_format_referenceDate_last :
    let rs : List Record :=
      [{ log := "a", message := "", line := "", body := "", time := some ⟨36000000, by decide⟩ },
       { log := "b", message := "", line := "", body := ""
         time := some ⟨1636699991230, by decide⟩ }]
    let reference := referenceDate (Record.times rs)
    (∃ r ∈ rs, r.time.isSome = true) ∧
      format ⟨lastMillis, by decide⟩ reference = "23:59:59.999 (+95007293days)" ∧
      parse "23:59:59.999 (+95007293days)" reference none = .ok (some ⟨lastMillis, by decide⟩) := by
  intro rs reference
  have hsome : ∃ r ∈ rs, r.time.isSome = true := ⟨_, List.mem_cons_self, rfl⟩
  have htext : format ⟨lastMillis, by decide⟩ reference = "23:59:59.999 (+95007293days)" := by
    decide +kernel
  refine ⟨hsome, htext, ?_⟩
  rw [← htext]
  exact (parse_format_referenceDate rs hsome).1 _ none

end Control

end Logbook
