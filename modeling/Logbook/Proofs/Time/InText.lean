import Logbook.Proofs.Time.Written

/-!
# Stamps inside other text

* `Instant.dashed`, `Instant.dashedMillis`: an instant written as a stamp, to the second and to the
  millisecond;
* `Stamp.instant?_ofInstant`, `Stamp.instant?_ofInstantMillis`: what such stamps mean;
* `Stamp.findForm?_skip`, `Stamp.findForm?_append`: where no form with a date can begin;
* `Stamp.HasMillis`: a stamp with milliseconds occurs in a text;
* **`readStamp?_dashed`**: what is read of a text with the stamp of an instant;
* `not_readStamp?_dashed`: a stamp with milliseconds is read in place of one in front of it.
-/

namespace Logbook

/-! ## Instants written as stamps -/

namespace Instant

variable (t : Instant)

/-- Date and time to the second: `2021-11-12 06:53:11`. -/
def dashed : List Char :=
  yearText t.year ++ '-' :: (Text.padded 2 t.date.month ++ '-' :: (Text.padded 2 t.date.day
    ++ ' ' :: t.compact))

/-- Date and time to the millisecond: `2021-11-12 06:53:11.230`. -/
def dashedMillis : List Char := t.dashed ++ '.' :: Text.padded 3 t.milli

/-- The start of the second. -/
def wholeSecond : Instant :=
  ⟨t.millis - t.millis % 1000, by
    have h := t.inCalendar
    unfold firstMillis lastMillis at *
    omega⟩

/-- A year of four digits. -/
def InFourDigits : Prop := 0 ≤ t.year ∧ t.year ≤ 9999

theorem millis_wholeSecond : t.wholeSecond.millis = t.millis - t.millis % 1000 := rfl

theorem day_wholeSecond : t.wholeSecond.day = t.day := by
  unfold day dayMillis
  rw [millis_wholeSecond]
  omega

theorem sinceMidnight_wholeSecond : t.wholeSecond.sinceMidnight = t.sinceMidnight - t.milli := by
  unfold milli sinceMidnight dayMillis
  rw [millis_wholeSecond]
  omega

theorem date_wholeSecond : t.wholeSecond.date = t.date := by rw [date, day_wholeSecond, date]

theorem clock_wholeSecond : t.wholeSecond.hour = t.hour ∧ t.wholeSecond.minute = t.minute ∧
    t.wholeSecond.second = t.second ∧ t.wholeSecond.milli = 0 := by
  have hclock := t.sinceMidnight_wholeSecond
  unfold hour minute second milli at *
  omega

end Instant

namespace Stamp

variable {form : List Char → Option Stamp} {s : Stamp} {cs front rest : List Char}

/-- The stamp of an instant, to the second. -/
def ofInstant (t : Instant) : Stamp :=
  { year := some (Text.padded 4 t.year.toNat)
    month := some (Text.padded 2 t.date.month)
    day := some (Text.padded 2 t.date.day)
    hour := Text.padded 2 t.hour
    minute := Text.padded 2 t.minute
    second := Text.padded 2 t.second }

/-- The stamp of an instant, to the millisecond. -/
def ofInstantMillis (t : Instant) : Stamp :=
  { ofInstant t with milli := some (Text.padded 3 t.milli) }

theorem isDigits_padded {width n : Nat} (hwidth : 0 < width) (hn : n < Nat.pow 10 width) :
    IsDigits width (Text.padded width n) :=
  ⟨Text.length_padded hwidth hn, (Text.writes_padded width n).isDecimal⟩

theorem hyphened_dashed {t : Instant} (h : t.InFourDigits) : (ofInstant t).Hyphened t.dashed := by
  obtain ⟨hm, hd, hhh, hmm, hss, -⟩ := t.fields_lt
  have hyear : Instant.yearText t.year = Text.padded 4 t.year.toNat := if_pos h
  obtain ⟨hlo, hhi⟩ := h
  have hfour : t.year.toNat < Nat.pow 10 4 := by
    change _ < 10000
    omega
  have htwo {n : Nat} (hn : n < 100) : IsDigits 2 (Text.padded 2 n) :=
    isDigits_padded (by decide) hn
  have hmonth : IsDigits 2 (Text.padded 2 t.date.month) := htwo (by omega)
  have hday : IsDigits 2 (Text.padded 2 t.date.day) := htwo (by omega)
  have hhour : IsDigits 2 (Text.padded 2 t.hour) := htwo (by omega)
  have hminute : IsDigits 2 (Text.padded 2 t.minute) := htwo (by omega)
  have hsecond : IsDigits 2 (Text.padded 2 t.second) := htwo (by omega)
  have htext : t.dashed = joined '-' (Text.padded 4 t.year.toNat) (Text.padded 2 t.date.month)
      (Text.padded 2 t.date.day) ++ ' ' :: joined ':' (Text.padded 2 t.hour)
        (Text.padded 2 t.minute) (Text.padded 2 t.second) := by
    simp only [Instant.dashed, Instant.compact, hyear, joined, List.append_assoc, List.cons_append]
  rw [htext]
  exact .intro (isDigits_padded (by decide) hfour) hmonth hday (.inl rfl) hhour hminute hsecond

/-- The stamp of an instant means it with its milliseconds, or without them where there are none. -/
theorem instant?_ofInstant_milli {t : Instant} (h : t.InFourDigits) {ms : Option (List Char)}
    (hdigits : ∀ ds ∈ ms, ∀ c ∈ ds, Text.isDecimal c = true) (hms : Text.WritesOr 0 ms t.milli) :
    instant? { ofInstant t with milli := ms } = some t := by
  obtain ⟨hlo, hhi⟩ := id h
  have hdecimal : IsDecimal { ofInstant t with milli := ms } :=
    { (hyphened_dashed h).isDecimal with milli := hdigits }
  refine (instant?_eq_some_iff hdecimal).mpr ⟨t.year.toNat, Text.writes_padded 4 _, by omega, ?_⟩
  rw [yearOfWord_of_lt (by omega)]
  exact
    { year := (Int.toNat_of_nonneg hlo).symm
      month := Text.writes_padded 2 _
      day := Text.writes_padded 2 _
      hour := ⟨t.hour, Text.writes_padded 2 _, rfl⟩
      minute := Text.writes_padded 2 _
      second := Text.writes_padded 2 _
      milli := hms }

theorem ofInstant_wholeSecond (t : Instant) : ofInstant t.wholeSecond = ofInstant t := by
  obtain ⟨hhour, hminute, hsecond, -⟩ := t.clock_wholeSecond
  simp only [ofInstant, Instant.year, t.date_wholeSecond, hhour, hminute, hsecond]

theorem instant?_ofInstant {t : Instant} (h : t.InFourDigits) :
    (ofInstant t).instant? = some t.wholeSecond := by
  have hwhole : t.wholeSecond.InFourDigits := by
    rwa [Instant.InFourDigits, Instant.year, t.date_wholeSecond]
  rw [← ofInstant_wholeSecond]
  exact instant?_ofInstant_milli hwhole (by rintro _ ⟨⟩) t.clock_wholeSecond.2.2.2

theorem instant?_ofInstantMillis {t : Instant} (h : t.InFourDigits) :
    (ofInstantMillis t).instant? = some t := by
  have hwrites : Text.Writes (Text.padded 3 t.milli) t.milli := Text.writes_padded 3 _
  exact instant?_ofInstant_milli h (by rintro _ ⟨⟩; exact hwrites.isDecimal) hwrites

/-! ## Where a form is found -/

theorem findForm?_of_eq_some (h : form cs = some s) : findForm? form cs = some s := by
  cases cs with
  | nil => exact h
  | cons c cs => rw [findForm?, h, Option.some_or]

theorem isSome_findForm?_iff : (findForm? form cs).isSome = true ↔
    ∃ front rest, cs = front ++ rest ∧ (form rest).isSome = true := by
  constructor
  · intro h
    obtain ⟨s, hs⟩ := Option.isSome_iff_exists.mp h
    obtain ⟨front, rest, hcs, hrest⟩ := exists_of_findForm? hs
    exact ⟨front, rest, hcs, by rw [hrest]; rfl⟩
  · rintro ⟨front, rest, rfl, hrest⟩
    induction front with
    | nil =>
      obtain ⟨s, hs⟩ := Option.isSome_iff_exists.mp hrest
      rw [List.nil_append, findForm?_of_eq_some hs]
      rfl
    | cons c front ih => rw [List.cons_append, findForm?, Option.isSome_or, ih, Bool.or_true]

/-- A form that is read only where four digits stand. -/
def NeedsYear (form : List Char → Option Stamp) : Prop :=
  ∀ cs s, form cs = some s → ∃ y rest, IsDigits 4 y ∧ cs = y ++ rest

theorem Hyphened.exists_year {p : List Char} (h : s.Hyphened p) :
    ∃ y rest, IsDigits 4 y ∧ p = y ++ rest := by
  obtain ⟨hy, -, -, -, -, -, -⟩ := h
  exact ⟨_, _, hy, by rw [joined, List.append_assoc]⟩

theorem needsYear_fullMillis : NeedsYear fullMillis := by
  intro cs s h
  obtain ⟨s', p, point, ms, tail, hp, -, -, -, rfl⟩ := fullMillis_eq_some_iff.mp h
  obtain ⟨y, rest, hy, rfl⟩ := hp.exists_year
  exact ⟨y, _, hy, List.append_assoc _ _ _⟩

theorem needsYear_full : NeedsYear full := by
  intro cs s h
  obtain ⟨p, tail, hp, rfl⟩ := full_eq_some_iff.mp h
  obtain ⟨y, rest, hy, rfl⟩ := hp.exists_year
  exact ⟨y, _, hy, List.append_assoc _ _ _⟩

/-- Where the fourth character at the latest is no digit, no year stands. -/
theorem NeedsYear.eq_none (hform : NeedsYear form) {block : List Char} (hlen : block.length ≤ 3)
    (hrest : ∀ c ∈ rest.head?, Text.isDecimal c = false) : form (block ++ rest) = none := by
  refine Option.eq_none_iff_forall_ne_some.mpr fun s hs => ?_
  obtain ⟨y, after, hy, heq⟩ := hform _ s hs
  have hylen := hy.length
  obtain ⟨y', rfl, hrest'⟩ := (List.append_eq_append_iff.mp heq).resolve_right (by
    rintro ⟨b, rfl, -⟩
    rw [List.length_append] at hlen
    omega)
  cases y' with
  | nil =>
    rw [List.append_nil] at hylen
    omega
  | cons c y' =>
    have hc : Text.isDecimal c = true := hy.isDecimal c (by simp)
    rw [hrest', List.cons_append, List.head?_cons] at hrest
    rw [hrest c rfl] at hc
    exact absurd hc (by simp)

/-- Up to three characters in front of one that is no digit are passed over. -/
theorem findForm?_skip (hform : NeedsYear form) {block : List Char} (hlen : block.length ≤ 3)
    (hrest : ∀ c ∈ rest.head?, Text.isDecimal c = false) :
    findForm? form (block ++ rest) = findForm? form rest := by
  induction block with
  | nil => rfl
  | cons c block ih =>
    have hnone := hform.eq_none hlen hrest
    rw [List.cons_append] at hnone ⊢
    rw [findForm?, hnone, Option.none_or, ih (by rw [List.length_cons] at hlen; omega)]

theorem findForm?_append (hform : NeedsYear form)
    (hfront : ∀ c ∈ front, Text.isDecimal c = false) (rest : List Char) :
    findForm? form (front ++ rest) = findForm? form rest := by
  induction front with
  | nil => rfl
  | cons c front ih =>
    obtain ⟨hc, hfront⟩ := List.forall_mem_cons.mp hfront
    have hnone : form ([] ++ c :: (front ++ rest)) = none :=
      hform.eq_none (Nat.zero_le _) (by rintro _ ⟨⟩; exact hc)
    rw [List.nil_append] at hnone
    rw [List.cons_append, findForm?, hnone, Option.none_or, ih hfront]

theorem findForm?_group (hform : NeedsYear form) {ds : List Char} (hds : IsDigits 2 ds) (c : Char)
    (hrest : ∀ c ∈ rest.head?, Text.isDecimal c = false) :
    findForm? form (c :: (ds ++ rest)) = findForm? form rest := by
  have hlen : (c :: ds).length ≤ 3 := Nat.succ_le_succ (Nat.le_of_eq hds.length)
  exact findForm?_skip hform hlen hrest

/-- A date and a time at whose start a form is not read are passed over. -/
theorem Hyphened.findForm?_append {p : List Char} (h : s.Hyphened p) (hform : NeedsYear form)
    (hnone : form (p ++ rest) = none) (hrest : ∀ c ∈ rest.head?, Text.isDecimal c = false) :
    findForm? form (p ++ rest) = findForm? form rest := by
  obtain @⟨y, m, d, hh, mm, ss, sep, hy, hm, hd, hsep, hhh, hmm, hss⟩ := h
  obtain ⟨c, y', rfl⟩ := List.exists_cons_of_length_eq_add_one hy.length
  have hlen : y'.length = 3 := Nat.succ.inj hy.length
  have hsep' : Text.isDecimal sep = false := by
    rcases hsep with rfl | rfl <;> decide
  simp only [joined, List.append_assoc, List.cons_append] at hnone ⊢
  rw [findForm?, hnone, Option.none_or]
  rw [findForm?_skip hform (Nat.le_of_eq hlen) (by rintro _ ⟨⟩; decide)]
  rw [findForm?_group hform hm _ (by rintro _ ⟨⟩; decide)]
  rw [findForm?_group hform hd _ (by rintro _ ⟨⟩; exact hsep')]
  rw [findForm?_group hform hhh _ (by rintro _ ⟨⟩; decide)]
  rw [findForm?_group hform hmm _ (by rintro _ ⟨⟩; decide)]
  rw [findForm?_group hform hss _ hrest]

/-! ## Stamps with milliseconds in a text -/

/-- **A stamp with milliseconds occurs**: a date and a time, one more character and three digits. -/
def HasMillis (cs : List Char) : Prop :=
  ∃ (front : List Char) (s : Stamp) (p : List Char) (point : Char) (ms tail : List Char),
    s.Hyphened p ∧ point ≠ '\n' ∧ IsDigits 3 ms ∧ cs = front ++ (p ++ point :: (ms ++ tail))

theorem hasMillis_iff : HasMillis cs ↔ (findForm? fullMillis cs).isSome = true := by
  rw [isSome_findForm?_iff]
  constructor
  · rintro ⟨front, s, p, point, ms, tail, hp, hpoint, hms, rfl⟩
    refine ⟨front, _, rfl, Option.isSome_iff_exists.mpr ⟨{ s with milli := some ms }, ?_⟩⟩
    exact fullMillis_eq_some_iff.mpr ⟨s, p, point, ms, tail, hp, hpoint, hms, rfl, rfl⟩
  · rintro ⟨front, rest, rfl, hsome⟩
    obtain ⟨s, hs⟩ := Option.isSome_iff_exists.mp hsome
    obtain ⟨s', p, point, ms, tail, hp, hpoint, hms, -, rfl⟩ := fullMillis_eq_some_iff.mp hs
    exact ⟨front, s', p, point, ms, tail, hp, hpoint, hms, rfl⟩

instance (cs : List Char) : Decidable (HasMillis cs) := decidable_of_iff _ hasMillis_iff.symm

theorem find?_of_fullMillis (h : findForm? fullMillis cs = some s) : find? cs = some s := by
  simp only [find?, forms, List.findSome?_cons, h]

theorem find?_of_full (h : ¬ HasMillis cs) (hfull : findForm? full cs = some s) :
    find? cs = some s := by
  have hnone : findForm? fullMillis cs = none := by
    rwa [hasMillis_iff, Bool.not_eq_true, Option.isSome_eq_false_iff,
        Option.isNone_iff_eq_none] at h
  simp only [find?, forms, List.findSome?_cons, hnone, hfull]

theorem fullMillis_dashedMillis {t : Instant} (h : t.InFourDigits) (tail : List Char) :
    fullMillis (t.dashedMillis ++ tail) = some (ofInstantMillis t) := by
  have hmilli : t.milli < 1000 := t.fields_lt.2.2.2.2.2
  refine fullMillis_eq_some_iff.mpr ⟨ofInstant t, t.dashed, '.', Text.padded 3 t.milli, tail,
    hyphened_dashed h, by decide, isDigits_padded (by decide) hmilli, rfl, ?_⟩
  rw [Instant.dashedMillis, List.append_assoc, List.cons_append]

theorem full_dashed {t : Instant} (h : t.InFourDigits) (tail : List Char) :
    full (t.dashed ++ tail) = some (ofInstant t) :=
  full_eq_some_iff.mpr ⟨t.dashed, tail, hyphened_dashed h, rfl⟩

/-- Behind a date and a time no milliseconds are read where the second character is no digit. -/
theorem Hyphened.fullMillis_eq_none {p : List Char} (h : s.Hyphened p) {c d : Char}
    (hd : Text.isDecimal d = false) : fullMillis (p ++ c :: d :: rest) = none := by
  have hdated : dated? (p ++ c :: d :: rest) = some (s, c :: d :: rest) :=
    dated?_eq_some_iff.mpr ⟨p, h, rfl⟩
  have hmillis : millis? (c :: d :: rest) = none := by
    refine Option.eq_none_iff_forall_ne_some.mpr fun ⟨ms, tail⟩ hread => ?_
    obtain ⟨hms, point, -, heq⟩ := millis?_eq_some_iff.mp hread
    obtain ⟨c', ms', rfl⟩ := List.exists_cons_of_length_eq_add_one hms.length
    obtain ⟨-, hd', -⟩ : c = point ∧ d = c' ∧ rest = ms' ++ tail := by simpa using heq
    rw [hd', hms.isDecimal c' List.mem_cons_self] at hd
    exact absurd hd (by decide)
  simp only [fullMillis, hdated, hmillis, Option.bind_eq_bind, Option.bind_some, Option.bind_none]

end Stamp

open Stamp

/-! ## The laws -/

/-- **What is read of a text with the stamp of an instant.** A stamp with milliseconds is read as it
is, whatever follows. A stamp without them is read as its second where no stamp with milliseconds
occurs; behind a space and other text without digits, one with milliseconds is read in its place. -/
theorem readStamp?_dashed (t : Instant) (ht : t.InFourDigits) {front : List Char}
    (hfront : ∀ c ∈ front, Text.isDecimal c = false) :
    (∀ tail, readStamp? (front ++ (t.dashedMillis ++ tail)) = some t) ∧
    (∀ tail, ¬ HasMillis (t.dashed ++ tail) →
      readStamp? (front ++ (t.dashed ++ tail)) = some t.wholeSecond) ∧
    ∀ (u : Instant) (mid tail : List Char), u.InFourDigits → mid ≠ [] →
      (∀ c ∈ mid, Text.isDecimal c = false) →
      readStamp? (front ++ (t.dashed ++ ' ' :: (mid ++ (u.dashedMillis ++ tail)))) = some u := by
  refine ⟨fun tail => ?_, fun tail hnone => ?_, fun u mid tail hu hne hmid => ?_⟩
  · have hfound : findForm? fullMillis (front ++ (t.dashedMillis ++ tail)) =
        some (ofInstantMillis t) := by
      rw [findForm?_append needsYear_fullMillis hfront]
      exact findForm?_of_eq_some (fullMillis_dashedMillis ht tail)
    rw [readStamp?, find?_of_fullMillis hfound, Option.bind_some, instant?_ofInstantMillis ht]
  · have hfound : findForm? full (front ++ (t.dashed ++ tail)) = some (ofInstant t) := by
      rw [findForm?_append needsYear_full hfront]
      exact findForm?_of_eq_some (full_dashed ht tail)
    have hnone' : ¬ HasMillis (front ++ (t.dashed ++ tail)) := by
      rwa [hasMillis_iff, findForm?_append needsYear_fullMillis hfront, ← hasMillis_iff]
    rw [readStamp?, find?_of_full hnone' hfound, Option.bind_some, instant?_ofInstant ht]
  · have hstart : fullMillis (t.dashed ++ ' ' :: (mid ++ (u.dashedMillis ++ tail))) = none := by
      obtain ⟨d, mid', rfl⟩ := List.exists_cons_of_ne_nil hne
      exact (hyphened_dashed ht).fullMillis_eq_none (hmid d List.mem_cons_self)
    have hspace : ∀ c ∈ ' ' :: mid, Text.isDecimal c = false :=
      List.forall_mem_cons.mpr ⟨by decide, hmid⟩
    have hfound : findForm? fullMillis
        (front ++ (t.dashed ++ ' ' :: (mid ++ (u.dashedMillis ++ tail)))) =
        some (ofInstantMillis u) := by
      rw [findForm?_append needsYear_fullMillis hfront]
      rw [(hyphened_dashed ht).findForm?_append needsYear_fullMillis hstart
        (by rintro _ ⟨⟩; decide)]
      rw [← List.cons_append, findForm?_append needsYear_fullMillis hspace]
      exact findForm?_of_eq_some (fullMillis_dashedMillis hu tail)
    rw [readStamp?, find?_of_fullMillis hfound, Option.bind_some, instant?_ofInstantMillis hu]

/-- The time of day behind a stamp does not change it; a date and a time with milliseconds do. -/
theorem readStamp?_dashed_november :
    let t : Instant := ⟨1636699991230, by decide⟩
    let u : Instant := ⟨1636700400000, by decide⟩
    t.InFourDigits ∧ u.InFourDigits ∧
      ¬ HasMillis (t.dashed ++ " until 07:00:00.000".toList) ∧
      readStamp? "at 2021-11-12 06:53:11.230 123".toList = some t ∧
      readStamp? "at 2021-11-12 06:53:11 until 07:00:00.000".toList = some t.wholeSecond ∧
      readStamp? "at 2021-11-12 06:53:11 until 2021-11-12 07:00:00.000".toList = some u := by
  intro t u
  have ht : t.InFourDigits := by
    unfold Instant.InFourDigits
    decide +kernel
  have hu : u.InFourDigits := by
    unfold Instant.InFourDigits
    decide +kernel
  have hnone : ¬ HasMillis (t.dashed ++ " until 07:00:00.000".toList) := by decide +kernel
  have hfree (cs : List Char) (h : cs.all (fun c => !Text.isDecimal c) = true) :
      ∀ c ∈ cs, Text.isDecimal c = false := by
    simpa only [List.all_eq_true, Bool.not_eq_true'] using h
  obtain ⟨hmillis, hsecond, hlater⟩ :=
    readStamp?_dashed t ht (hfree "at ".toList (by decide +kernel))
  have hafter : "at 2021-11-12 06:53:11.230 123".toList =
      "at ".toList ++ (t.dashedMillis ++ " 123".toList) := by decide +kernel
  have huntil : "at 2021-11-12 06:53:11 until 07:00:00.000".toList =
      "at ".toList ++ (t.dashed ++ " until 07:00:00.000".toList) := by decide +kernel
  have hboth : "at 2021-11-12 06:53:11 until 2021-11-12 07:00:00.000".toList =
      "at ".toList ++ (t.dashed ++ ' ' :: ("until ".toList ++ (u.dashedMillis ++ []))) := by
    decide +kernel
  rw [hafter, huntil, hboth]
  exact ⟨ht, hu, hnone, hmillis _, hsecond _ hnone,
    hlater u _ [] hu (by decide) (hfree _ (by decide +kernel))⟩

/-- A stamp with milliseconds is read in place of the one in front of it. -/
theorem not_readStamp?_dashed :
    ¬ ∀ (t : Instant) (front tail : List Char), t.InFourDigits →
      (∀ c ∈ front, Text.isDecimal c = false) → (∀ c ∈ tail.head?, c = ' ') →
      readStamp? (front ++ (t.dashed ++ tail)) = some t.wholeSecond := by
  intro h
  let t : Instant := ⟨1636699991230, by decide⟩
  have ht : t.InFourDigits := by
    unfold Instant.InFourDigits
    decide +kernel
  have hread := h t [] " until 2021-11-12 07:00:00.000".toList ht (by simp)
    (by rintro _ ⟨⟩; rfl)
  have hother : readStamp? ([] ++ (t.dashed ++ " until 2021-11-12 07:00:00.000".toList)) ≠
      some t.wholeSecond := by decide +kernel
  exact hother hread

end Logbook
