import Logbook.Proofs.Time.Fields
import Logbook.Proofs.Time.Stamps

/-!
# Numbers that stamps and controls write

* `Stamp.Says`: the numbers of a stamp are those of an instant of some year;
* `Stamp.instant?_eq_some_iff`: the instant of a stamp has its numbers, the year in 32 bits;
* `Stamp.ReadAs`: how a stamp with a year is read;
* `Control.Written`, `Control.written_of_dateTime?`: the text of a control with a date;
* **`readAs_written`**: how the stamps in a text and the controls with a date are read;
* `not_year_as_written`: the year that is read may be another one than the one written.
-/

namespace Logbook

namespace Stamp

variable {s : Stamp} {ys : List Char} {t : Instant}

/-! ## The numbers of a stamp -/

/-- **The numbers of a stamp are those of an instant** of a given year; the hour is moved to its
half of the day. -/
structure Says (s : Stamp) (year : Int) (t : Instant) : Prop where
  year : t.year = year
  month : Text.WritesOr 1 s.month t.date.month
  day : Text.WritesOr 1 s.day t.date.day
  hour : ∃ h, Text.Writes s.hour h ∧ t.hour = hour24 h s.half
  minute : Text.Writes s.minute t.minute
  second : Text.Writes s.second t.second
  milli : Text.WritesOr 0 s.milli t.milli

/-- All groups of a stamp are digits, of any script. -/
structure IsDecimal (s : Stamp) : Prop where
  year : ∀ ds ∈ s.year, ∀ c ∈ ds, Text.isDecimal c = true
  month : ∀ ds ∈ s.month, ∀ c ∈ ds, Text.isDecimal c = true
  day : ∀ ds ∈ s.day, ∀ c ∈ ds, Text.isDecimal c = true
  hour : ∀ c ∈ s.hour, Text.isDecimal c = true
  minute : ∀ c ∈ s.minute, Text.isDecimal c = true
  second : ∀ c ∈ s.second, Text.isDecimal c = true
  milli : ∀ ds ∈ s.milli, ∀ c ∈ ds, Text.isDecimal c = true

theorem lt_of_hour24_lt {h : Nat} {half : Option HalfDay} (hlt : hour24 h half < 24) : h < 24 := by
  unfold hour24 at hlt
  split at hlt
  · split at hlt <;> omega
  · split at hlt <;> omega
  · exact hlt

/-- **The instant of a stamp** has its numbers, and the year that is left of its number in 32
bits. -/
theorem instant?_eq_some_iff (hs : s.IsDecimal) : s.instant? = some t ↔
    ∃ y, Text.WritesOr 1970 s.year y ∧ y < 0x100000000 ∧ s.Says (yearOfWord y) t := by
  have hyear (n : Nat) : numberOr? 1970 s.year = some n ↔
      Text.WritesOr 1970 s.year n ∧ n < 0x100000000 := numberOr?_eq_some_iff hs.year (by decide)
  have hmonth (n : Nat) : numberOr? 1 s.month = some n ↔
      Text.WritesOr 1 s.month n ∧ n < 0x100000000 := numberOr?_eq_some_iff hs.month (by decide)
  have hday (n : Nat) : numberOr? 1 s.day = some n ↔
      Text.WritesOr 1 s.day n ∧ n < 0x100000000 := numberOr?_eq_some_iff hs.day (by decide)
  have hmilli (n : Nat) : numberOr? 0 s.milli = some n ↔
      Text.WritesOr 0 s.milli n ∧ n < 0x100000000 := numberOr?_eq_some_iff hs.milli (by decide)
  simp only [instant?, Option.bind_eq_bind, Option.bind_eq_some_iff, hyear, hmonth, hday, hmilli,
    number?_eq_some_iff hs.hour, number?_eq_some_iff hs.minute, number?_eq_some_iff hs.second,
    Instant.ofFields?_eq_some_iff]
  constructor
  · rintro ⟨y, ⟨hy, hylt⟩, m, ⟨hm, -⟩, d, ⟨hd, -⟩, hh, ⟨hhh, -⟩, mm, ⟨hmm, -⟩, ss, ⟨hss, -⟩, ms,
      ⟨hms, -⟩, hdate, hhour, rfl, rfl, rfl⟩
    refine ⟨y, hy, hylt, ?_, ?_, ?_, ⟨hh, hhh, hhour⟩, hmm, hss, hms⟩
    · rw [Instant.year, hdate]
    · rwa [hdate]
    · rwa [hdate]
  · rintro ⟨y, hy, hylt, hfields⟩
    obtain ⟨hm, hd, hhlt, hmm, hss, hms⟩ := t.fields_lt
    obtain ⟨hh, hhh, hhour⟩ := hfields.hour
    have hhhlt : hh < 24 := lt_of_hour24_lt (hhour ▸ hhlt)
    refine ⟨y, ⟨hy, hylt⟩, t.date.month, ⟨hfields.month, by omega⟩, t.date.day,
      ⟨hfields.day, by omega⟩, hh, ⟨hhh, by omega⟩, t.minute, ⟨hfields.minute, by omega⟩, t.second,
      ⟨hfields.second, by omega⟩, t.milli, ⟨hfields.milli, by omega⟩, ?_, hhour, rfl, rfl, rfl⟩
    rw [← hfields.year]
    rfl

theorem yearOfWord_of_lt {y : Nat} (h : y < 0x80000000) : yearOfWord y = y :=
  Int.bmod_eq_of_le (by omega) (by omega)

theorem yearOfWord_of_le {y : Nat} (h : 0x80000000 ≤ y) (h' : y < 0x100000000) :
    yearOfWord y = (y : Int) - 0x100000000 := by
  have hword : yearOfWord y = Int.bmod ((y : Int) - 0x100000000) 0x100000000 :=
    (Int.sub_bmod_right (y : Int) 0x100000000).symm
  rw [hword]
  exact Int.bmod_eq_of_le (by omega) (by omega)

/-! ## Reading a stamp with a year -/

/-- **How a stamp is read whose year is written in `ys`**: `yields t` says that it is read as the
instant `t`, `rejected` that it is refused. -/
structure ReadAs (s : Stamp) (ys : List Char) (yields : Instant → Prop) (rejected : Prop) :
    Prop where
  /-- The numbers are those written, the year with them, but for years of 32 bits with the highest
  one set. -/
  as_written : ∀ y, Text.Writes ys y → y < 0x80000000 ∨ 0x100000000 ≤ y → ∀ t, yields t ↔ s.Says y t
  /-- Such a year counts from 2³² down. -/
  wrapped : ∀ y, Text.Writes ys y → 0x80000000 ≤ y → y < 0x100000000 →
    ∀ t, yields t ↔ s.Says ((y : Int) - 0x100000000) t
  /-- Digits other than the ASCII ones write no year. -/
  foreign : (∀ y, ¬ Text.Writes ys y) → ∀ t, ¬ yields t
  rejected_iff : rejected ↔ ∀ t, ¬ yields t

theorem not_says_of_lt {year : Int} (h : Instant.lastYear < year) : ¬ s.Says year t := by
  intro hfields
  have hlast := t.year_inCalendar.2
  rw [hfields.year] at hlast
  omega

theorem readAs_instant? (hs : s.IsDecimal) (hy : s.year = some ys) {yields : Instant → Prop}
    {rejected : Prop} (hyields : ∀ t, yields t ↔ s.instant? = some t)
    (hrejected : rejected ↔ s.instant? = none) : s.ReadAs ys yields rejected := by
  have hiff (t : Instant) : yields t ↔
      ∃ y, Text.Writes ys y ∧ y < 0x100000000 ∧ s.Says (yearOfWord y) t := by
    rw [hyields, instant?_eq_some_iff hs, hy]
    rfl
  refine ⟨fun y hys hy t => ?_, fun y hys hlo hhi t => ?_, fun hno t => ?_, ?_⟩
  · rw [hiff]
    constructor
    · rintro ⟨y', hys', hlt, hfields⟩
      obtain rfl := hys.unique hys'
      rwa [yearOfWord_of_lt (by omega)] at hfields
    · intro hfields
      have hlt : y < 0x100000000 := Nat.not_le.mp fun hle =>
        not_says_of_lt (by unfold Instant.lastYear; omega) hfields
      exact ⟨y, hys, hlt, by rwa [yearOfWord_of_lt (by omega)]⟩
  · rw [hiff]
    constructor
    · rintro ⟨y', hys', -, hfields⟩
      obtain rfl := hys.unique hys'
      rwa [yearOfWord_of_le hlo hhi] at hfields
    · intro hfields
      exact ⟨y, hys, hhi, by rwa [yearOfWord_of_le hlo hhi]⟩
  · rw [hiff]
    rintro ⟨y, hys, -⟩
    exact hno y hys
  · rw [hrejected, Option.eq_none_iff_forall_ne_some]
    exact forall_congr' fun t => not_congr (hyields t).symm

theorem isDecimal_of_groups {y m d hh mm ss : List Char} {ms : Option (List Char)}
    {half : Option HalfDay} (hy : ∀ c ∈ y, Text.isDecimal c = true)
    (hm : ∀ c ∈ m, Text.isDecimal c = true) (hd : ∀ c ∈ d, Text.isDecimal c = true)
    (hhh : ∀ c ∈ hh, Text.isDecimal c = true) (hmm : ∀ c ∈ mm, Text.isDecimal c = true)
    (hss : ∀ c ∈ ss, Text.isDecimal c = true)
    (hms : ∀ ds ∈ ms, ∀ c ∈ ds, Text.isDecimal c = true) :
    IsDecimal
      { year := some y, month := some m, day := some d, hour := hh, minute := mm, second := ss,
        milli := ms, half := half } where
  year := by rintro _ ⟨⟩; exact hy
  month := by rintro _ ⟨⟩; exact hm
  day := by rintro _ ⟨⟩; exact hd
  hour := hhh
  minute := hmm
  second := hss
  milli := hms

theorem Hyphened.isDecimal {p : List Char} (h : s.Hyphened p) : s.IsDecimal := by
  obtain ⟨hy, hm, hd, -, hhh, hmm, hss⟩ := h
  exact isDecimal_of_groups hy.isDecimal hm.isDecimal hd.isDecimal hhh.isDecimal hmm.isDecimal
    hss.isDecimal (by rintro _ ⟨⟩)

theorem Written.isDecimal {p : List Char} (h : s.Written p) : s.IsDecimal := by
  cases h with
  | full h => exact h.isDecimal
  | fullMillis h _ hms => exact { h.isDecimal with milli := by rintro _ ⟨⟩; exact hms.isDecimal }
  | slashed half hm hd hy hhh hmm hss =>
    exact isDecimal_of_groups hy.isDecimal hm.isDecimal hd.isDecimal hhh.isDecimal hmm.isDecimal
      hss.isDecimal (by rintro _ ⟨⟩)

end Stamp

/-! ## Controls with a date -/

namespace Control

open Stamp (joined IsRun IsDigits)

/-- Milliseconds behind a point. -/
def millisText : Option (List Char) → List Char
  | none => []
  | some ds => '.' :: ds

/-- **The text of a control with a date**: `2021-11-12 06:53:11`, perhaps with milliseconds; the
groups of digits are those of the stamp. -/
inductive Written : Stamp → List Char → Prop
  | intro {y m d hh mm ss : List Char} {ms : Option (List Char)} (hy : IsRun y) (hm : IsRun m)
      (hd : IsRun d) (hhh : IsRun hh) (hmm : IsRun mm) (hss : IsRun ss)
      (hms : ∀ ds ∈ ms, IsDigits 3 ds) :
      Written
        { year := some y, month := some m, day := some d, hour := hh, minute := mm, second := ss,
          milli := ms }
        (joined '-' y m d ++ ' ' :: (joined ':' hh mm ss ++ millisText ms))

theorem Written.isDecimal {s : Stamp} {p : List Char} (h : Written s p) : s.IsDecimal := by
  obtain ⟨hy, hm, hd, hhh, hmm, hss, hms⟩ := h
  exact Stamp.isDecimal_of_groups hy.isDecimal hm.isDecimal hd.isDecimal hhh.isDecimal hmm.isDecimal
    hss.isDecimal fun ds hds => (hms ds hds).isDecimal

theorem optionalMillis_spec (cs : List Char) :
    cs = millisText (optionalMillis cs).1 ++ (optionalMillis cs).2 ∧
      ∀ ds ∈ (optionalMillis cs).1, IsDigits 3 ds := by
  unfold optionalMillis
  split
  · next rest =>
    cases hms : Stamp.digits? 3 rest with
    | none => exact ⟨rfl, by simp⟩
    | some found =>
      obtain ⟨hdigits, hrest⟩ := Stamp.digits?_eq_some_iff.mp hms
      refine ⟨by rw [hrest]; rfl, ?_⟩
      rintro _ ⟨⟩
      exact hdigits
  · exact ⟨rfl, by simp⟩

theorem written_of_dateTime? {cs : List Char} {s : Stamp} (h : dateTime? cs = some s) :
    Written s cs := by
  simp only [dateTime?, Option.bind_eq_bind, Option.bind_eq_some_iff, Prod.exists,
    Stamp.digitRun?_eq_some_iff, Stamp.char?_eq_some_iff, Option.ite_none_right_eq_some,
    Option.some.injEq, List.isEmpty_iff] at h
  obtain ⟨y, _, ⟨hy, rfl, -⟩, _, rfl, m, _, ⟨hm, rfl, -⟩, _, rfl, d, _, ⟨hd, rfl, -⟩, _, rfl, t,
    after, htime, hend, rfl⟩ := h
  obtain ⟨hh, mm, ss, h₁, h₂, h₃, rfl, rfl⟩ := Stamp.of_looseTime? htime
  obtain ⟨hafter, hdigits⟩ := optionalMillis_spec after
  rw [hend, List.append_nil] at hafter
  have hwritten := Written.intro hy hm hd h₁ h₂ h₃ hdigits
  simpa only [joined, List.append_assoc, List.cons_append, ← hafter] using hwritten

theorem parse_of_startsWithDate {text : String} (h : startsWithDate text.toList = true)
    (reference other : Option Instant) : parse text reference other = parseDated text.toList := by
  unfold parse
  split
  · next hnil => rw [hnil] at h; exact absurd h (by decide)
  · next c cs hcons => rw [← hcons, if_pos h]

theorem parseDated_of_dateTime? {cs : List Char} {s : Stamp} (h : dateTime? cs = some s) :
    parseDated cs = match s.instant? with
      | some t => .ok (some t)
      | none => .error .invalidDateTime := by
  unfold parseDated
  rw [h]
  cases hs : s.instant? with
  | none => simp only [orError, bind, Except.bind, hs]
  | some t => simp only [orError, bind, Except.bind, hs, pure, Except.pure]

end Control

/-! ## What is read -/

/-- **Stamps and controls with a date are read as they are written**, but for years of 32 bits that
have the highest one set. -/
theorem readAs_written (s : Stamp) {ys : List Char} (hyear : s.year = some ys) :
    (∀ cs, Stamp.find? cs = some s →
      (∃ front p tail, cs = front ++ (p ++ tail) ∧ s.Written p) ∧
        s.ReadAs ys (fun t => readStamp? cs = some t) (readStamp? cs = none)) ∧
    ∀ (text : String) (reference other : Option Instant),
      Control.startsWithDate text.toList = true → Control.dateTime? text.toList = some s →
      Control.Written s text.toList ∧
        s.ReadAs ys (fun t => Control.parse text reference other = .ok (some t))
          (Control.parse text reference other = .error .invalidDateTime) := by
  refine ⟨fun cs hfind => ?_, fun text reference other hstart hdate => ?_⟩
  · obtain ⟨front, p, tail, hcs, hp⟩ := Stamp.exists_written_of_find? hfind hyear
    have hread : readStamp? cs = s.instant? := by rw [readStamp?, hfind, Option.bind_some]
    refine ⟨⟨front, p, tail, hcs, hp⟩, Stamp.readAs_instant? hp.isDecimal hyear ?_ ?_⟩
    · intro t
      rw [hread]
    · rw [hread]
  · have hwritten := Control.written_of_dateTime? hdate
    have hparse := (Control.parse_of_startsWithDate hstart reference other).trans
      (Control.parseDated_of_dateTime? hdate)
    refine ⟨hwritten, Stamp.readAs_instant? hwritten.isDecimal hyear ?_ ?_⟩
    · intro t
      rw [hparse]
      cases s.instant? with
      | none => simp
      | some u => simp
    · rw [hparse]
      cases s.instant? with
      | none => simp
      | some u => simp

/-- A stamp between other words, and a control. -/
theorem readAs_written_november :
    let s : Stamp :=
      { year := some "2021".toList, month := some "11".toList, day := some "12".toList,
        hour := "06".toList, minute := "53".toList, second := "11".toList,
        milli := some "230".toList }
    let t : Instant := ⟨1636699991230, by decide⟩
    Stamp.find? "at 2021-11-12T06:53:11.230Z".toList = some s ∧
      readStamp? "at 2021-11-12T06:53:11.230Z".toList = some t ∧
      Control.startsWithDate "2021-11-12 06:53:11.230".toList = true ∧
      Control.dateTime? "2021-11-12 06:53:11.230".toList = some s ∧
      Control.parse "2021-11-12 06:53:11.230" none none = .ok (some t) ∧ s.Says 2021 t := by
  intro s t
  have hfind : Stamp.find? "at 2021-11-12T06:53:11.230Z".toList = some s := by decide +kernel
  have hread : readStamp? "at 2021-11-12T06:53:11.230Z".toList = some t := by decide +kernel
  have hstart : Control.startsWithDate "2021-11-12 06:53:11.230".toList = true := by decide +kernel
  have hdate : Control.dateTime? "2021-11-12 06:53:11.230".toList = some s := by decide +kernel
  have hyear : Text.Writes "2021".toList 2021 := Text.writes_decimal 2021
  have hfields : s.Says 2021 t :=
    (((readAs_written s rfl).1 _ hfind).2.as_written 2021 hyear (by decide) t).mp hread
  have hparse : Control.parse "2021-11-12 06:53:11.230" none none = .ok (some t) :=
    (((readAs_written s rfl).2 _ none none hstart hdate).2.as_written 2021 hyear (by decide) t).mpr
      hfields
  exact ⟨hfind, hread, hstart, hdate, hparse, hfields⟩

/-- A year of 32 bits with the highest one set is read as another year, by stamps and by
controls. -/
theorem not_year_as_written :
    ¬ (∀ cs s ys y t, Stamp.find? cs = some s → s.year = some ys → Text.Writes ys y →
        readStamp? cs = some t → s.Says y t) ∧
      ¬ ∀ (text : String) s ys y t, Control.startsWithDate text.toList = true →
        Control.dateTime? text.toList = some s → s.year = some ys → Text.Writes ys y →
        Control.parse text none none = .ok (some t) → s.Says y t := by
  have hyear : Text.Writes "4294967295".toList 4294967295 := Text.writes_decimal 4294967295
  have hnot (s : Stamp) (t : Instant) : ¬ s.Says (4294967295 : Nat) t :=
    Stamp.not_says_of_lt (by decide)
  constructor
  · intro h
    let s : Stamp :=
      { year := some "4294967295".toList, month := some "10".toList, day := some "26".toList,
        hour := "9".toList, minute := "43".toList, second := "06".toList, half := some .pm }
    have hfind : Stamp.find? "10/26/4294967295, 9:43:06 PM".toList = some s := by decide +kernel
    have hsome : (readStamp? "10/26/4294967295, 9:43:06 PM".toList).isSome = true := by
      decide +kernel
    obtain ⟨t, ht⟩ := Option.isSome_iff_exists.mp hsome
    exact hnot s t (h _ s _ _ t hfind rfl hyear ht)
  · intro h
    let s : Stamp :=
      { year := some "4294967295".toList, month := some "10".toList, day := some "26".toList,
        hour := "21".toList, minute := "43".toList, second := "06".toList }
    have hstart : Control.startsWithDate "4294967295-10-26 21:43:06".toList = true := by
      decide +kernel
    have hdate : Control.dateTime? "4294967295-10-26 21:43:06".toList = some s := by
      decide +kernel
    have hsome : s.instant?.isSome = true := by decide +kernel
    obtain ⟨t, ht⟩ := Option.isSome_iff_exists.mp hsome
    have hparse := (Control.parse_of_startsWithDate hstart none none).trans
      (Control.parseDated_of_dateTime? hdate)
    rw [ht] at hparse
    exact hnot s t (h _ s _ _ t hstart hdate rfl hyear hparse)

end Logbook
