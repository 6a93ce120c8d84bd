import Mathlib.Data.List.Basic
import Logbook.Proofs.Text.Numerals
import Logbook.Time.Stamp

/-!
# Stamps as they are written

* `Stamp.IsDigits`, `Stamp.IsRun`: groups of digits;
* `Stamp.digits?_eq_some_iff`, `Stamp.digitRun?_eq_some_iff`, `Stamp.time?_eq_some_iff` and so on:
  what each part of a stamp is read from;
* `Stamp.Hyphened`, `Stamp.Written`: the text of a stamp with a date;
* `Stamp.fullMillis_eq_some_iff`, `Stamp.full_eq_some_iff`, `Stamp.written_of_slashed`: the forms
  with a date read just such texts;
* **`Stamp.exists_written_of_find?`**: a stamp with a year that is found in a text is written there.
-/

namespace Logbook.Stamp

/-! ## Digits -/

/-- Just `n` digits, of any script. -/
structure IsDigits (n : Nat) (ds : List Char) : Prop where
  length : ds.length = n
  isDecimal : ∀ c ∈ ds, Text.isDecimal c = true

/-- Some digits, of any script. -/
structure IsRun (ds : List Char) : Prop where
  ne_nil : ds ≠ []
  isDecimal : ∀ c ∈ ds, Text.isDecimal c = true

variable {cs ds rest : List Char} {n : Nat} {c : Char}

theorem digits?_eq_some_iff : digits? n cs = some (ds, rest) ↔ IsDigits n ds ∧ cs = ds ++ rest := by
  unfold digits?
  simp only [List.all_eq_true, Option.ite_none_right_eq_some, Option.some.injEq, Prod.mk.injEq]
  constructor
  · rintro ⟨⟨hlen, hall⟩, rfl, rfl⟩
    exact ⟨⟨hlen, hall⟩, (List.take_append_drop n cs).symm⟩
  · rintro ⟨⟨rfl, hall⟩, rfl⟩
    rw [List.take_left, List.drop_left]
    exact ⟨⟨rfl, hall⟩, rfl, rfl⟩

theorem digitRun?_eq_some_iff : digitRun? cs = some (ds, rest) ↔
    IsRun ds ∧ cs = ds ++ rest ∧ ∀ c ∈ rest.head?, Text.isDecimal c = false := by
  unfold digitRun?
  simp only [Option.ite_none_left_eq_some, Option.some.injEq, Prod.mk.injEq, List.isEmpty_iff]
  constructor
  · rintro ⟨hne, rfl, rfl⟩
    refine ⟨⟨hne, List.all_eq_true.mp List.all_takeWhile⟩, List.takeWhile_append_dropWhile.symm, ?_⟩
    intro c hc
    have := List.head?_dropWhile_not Text.isDecimal cs
    rw [Option.mem_def.mp hc] at this
    simpa using this
  · rintro ⟨⟨hne, hall⟩, rfl, hrest⟩
    obtain ⟨htake, hdrop⟩ := Text.takeWhile_dropWhile_append hall hrest
    rw [htake, hdrop]
    exact ⟨hne, rfl, rfl⟩

theorem char?_eq_some_iff : char? c cs = some rest ↔ cs = c :: rest := by
  cases cs with
  | nil => simp [char?]
  | cons d cs => simp [char?]

theorem number?_eq_some_iff (h : ∀ c ∈ ds, Text.isDecimal c = true) :
    number? ds = some n ↔ Text.Writes ds n ∧ n < 0x100000000 :=
  Text.readBounded?_eq_some_iff h

theorem numberOr?_eq_some_iff {default : Nat} {o : Option (List Char)}
    (h : ∀ ds ∈ o, ∀ c ∈ ds, Text.isDecimal c = true) (hdefault : default < 0x100000000) :
    numberOr? default o = some n ↔ Text.WritesOr default o n ∧ n < 0x100000000 := by
  cases o with
  | none =>
    simp only [numberOr?, Text.WritesOr, Option.some.injEq]
    omega
  | some ds => exact number?_eq_some_iff (h ds rfl)

/-! ## Dates and times -/

/-- Three groups with the same character between them. -/
def joined (sep : Char) (a b c : List Char) : List Char := a ++ sep :: (b ++ sep :: c)

theorem date?_eq_some_iff {y m d : List Char} : date? cs = some ((y, m, d), rest) ↔
    IsDigits 4 y ∧ IsDigits 2 m ∧ IsDigits 2 d ∧ cs = joined '-' y m d ++ rest := by
  simp only [date?, Option.bind_eq_bind, Option.bind_eq_some_iff, Prod.exists, digits?_eq_some_iff,
    char?_eq_some_iff, Option.some.injEq, Prod.mk.injEq, joined]
  constructor
  · rintro ⟨y, _, ⟨hy, rfl⟩, _, rfl, m, _, ⟨hm, rfl⟩, _, rfl, d, _, ⟨hd, rfl⟩, ⟨rfl, rfl, rfl⟩, rfl⟩
    exact ⟨hy, hm, hd, by simp⟩
  · rintro ⟨hy, hm, hd, rfl⟩
    exact ⟨y, _, ⟨hy, by simp⟩, _, rfl, m, _, ⟨hm, rfl⟩, _, rfl, d, _, ⟨hd, rfl⟩,
      ⟨rfl, rfl, rfl⟩, rfl⟩

theorem time?_eq_some_iff {s : Stamp} : time? cs = some (s, rest) ↔
    ∃ hh mm ss, IsDigits 2 hh ∧ IsDigits 2 mm ∧ IsDigits 2 ss ∧
      s = { hour := hh, minute := mm, second := ss } ∧ cs = joined ':' hh mm ss ++ rest := by
  simp only [time?, Option.bind_eq_bind, Option.bind_eq_some_iff, Prod.exists, digits?_eq_some_iff,
    char?_eq_some_iff, Option.some.injEq, Prod.mk.injEq, joined]
  constructor
  · rintro ⟨hh, _, ⟨h₁, rfl⟩, _, rfl, mm, _, ⟨h₂, rfl⟩, _, rfl, ss, _, ⟨h₃, rfl⟩, rfl, rfl⟩
    exact ⟨hh, mm, ss, h₁, h₂, h₃, rfl, by simp⟩
  · rintro ⟨hh, mm, ss, h₁, h₂, h₃, rfl, rfl⟩
    exact ⟨hh, _, ⟨h₁, by simp⟩, _, rfl, mm, _, ⟨h₂, rfl⟩, _, rfl, ss, _, ⟨h₃, rfl⟩, rfl, rfl⟩

theorem of_looseTime? {s : Stamp} (h : looseTime? cs = some (s, rest)) :
    ∃ hh mm ss, IsRun hh ∧ IsRun mm ∧ IsRun ss ∧
      s = { hour := hh, minute := mm, second := ss } ∧ cs = joined ':' hh mm ss ++ rest := by
  simp only [looseTime?, Option.bind_eq_bind, Option.bind_eq_some_iff, Prod.exists,
    digitRun?_eq_some_iff, char?_eq_some_iff, Option.some.injEq, Prod.mk.injEq] at h
  obtain ⟨hh, _, ⟨h₁, rfl, -⟩, _, rfl, mm, _, ⟨h₂, rfl, -⟩, _, rfl, ss, _, ⟨h₃, rfl, -⟩, rfl,
    rfl⟩ := h
  exact ⟨hh, mm, ss, h₁, h₂, h₃, rfl, by simp [joined]⟩

theorem millis?_eq_some_iff : millis? cs = some (ds, rest) ↔
    IsDigits 3 ds ∧ ∃ point, point ≠ '\n' ∧ cs = point :: (ds ++ rest) := by
  cases cs with
  | nil => simp [millis?]
  | cons d cs =>
    simp only [millis?, Option.ite_none_left_eq_some, digits?_eq_some_iff, List.cons.injEq]
    constructor
    · rintro ⟨hd, hds, rfl⟩
      exact ⟨hds, d, hd, rfl, rfl⟩
    · rintro ⟨hds, _, hd, rfl, rfl⟩
      exact ⟨hd, hds, rfl⟩

/-- How the half of the day is written. -/
def halfText : Option HalfDay → List Char
  | none => []
  | some .am => [' ', 'A', 'M']
  | some .pm => [' ', 'P', 'M']

theorem exists_eq_halfText_append (cs : List Char) : ∃ rest, cs = halfText (half? cs) ++ rest := by
  unfold half?
  split
  · exact ⟨_, rfl⟩
  · exact ⟨_, rfl⟩
  · exact ⟨cs, rfl⟩

/-! ## The texts of stamps with a date -/

/-- **The text of a date and a time**, `2021-11-12 06:53:11`; its groups of digits are those of the
stamp. -/
inductive Hyphened : Stamp → List Char → Prop
  | intro {y m d hh mm ss : List Char} {sep : Char} (hy : IsDigits 4 y) (hm : IsDigits 2 m)
      (hd : IsDigits 2 d) (hsep : sep = ' ' ∨ sep = 'T') (hhh : IsDigits 2 hh) (hmm : IsDigits 2 mm)
      (hss : IsDigits 2 ss) :
      Hyphened
        { year := some y, month := some m, day := some d, hour := hh, minute := mm, second := ss }
        (joined '-' y m d ++ sep :: joined ':' hh mm ss)

/-- **The text of a stamp with a year**, in one of the three forms. -/
inductive Written : Stamp → List Char → Prop
  /-- `2021-11-12 06:53:11` -/
  | full {s : Stamp} {p : List Char} (h : s.Hyphened p) : Written s p
  /-- `2021-11-12 06:53:11.230`, where any character but a line feed may stand for the point -/
  | fullMillis {s : Stamp} {p ms : List Char} {point : Char} (h : s.Hyphened p)
      (hpoint : point ≠ '\n') (hms : IsDigits 3 ms) :
    Written { s with milli := some ms } (p ++ point :: ms)
  /-- `10/26/2021, 9:43:06 PM` -/
  | slashed {y m d hh mm ss : List Char} (half : Option HalfDay) (hm : IsRun m) (hd : IsRun d)
      (hy : IsRun y) (hhh : IsRun hh) (hmm : IsRun mm) (hss : IsRun ss) :
      Written
        { year := some y, month := some m, day := some d, hour := hh, minute := mm, second := ss,
          half := half }
        (joined '/' m d y ++ ',' :: ' ' :: (joined ':' hh mm ss ++ halfText half))

variable {s : Stamp}

theorem dated?_eq_some_iff : dated? cs = some (s, rest) ↔ ∃ p, s.Hyphened p ∧ cs = p ++ rest := by
  simp only [dated?, Option.bind_eq_bind, Option.bind_eq_some_iff, Prod.exists, date?_eq_some_iff]
  constructor
  · rintro ⟨y, m, d, after, ⟨hy, hm, hd, rfl⟩, h⟩
    -- What stands between date and time is one of two characters.
    split at h
    · simp only [Option.bind_eq_some_iff, Prod.exists, time?_eq_some_iff, Option.some.injEq,
        Prod.mk.injEq] at h
      obtain ⟨_, _, ⟨hh, mm, ss, h₁, h₂, h₃, rfl, rfl⟩, rfl, rfl⟩ := h
      exact ⟨_, .intro hy hm hd (.inl rfl) h₁ h₂ h₃, by simp⟩
    · simp only [Option.bind_eq_some_iff, Prod.exists, time?_eq_some_iff, Option.some.injEq,
        Prod.mk.injEq] at h
      obtain ⟨_, _, ⟨hh, mm, ss, h₁, h₂, h₃, rfl, rfl⟩, rfl, rfl⟩ := h
      exact ⟨_, .intro hy hm hd (.inr rfl) h₁ h₂ h₃, by simp⟩
    · exact absurd h (by simp)
  · rintro ⟨_, @⟨y, m, d, hh, mm, ss, sep, hy, hm, hd, hsep, h₁, h₂, h₃⟩, rfl⟩
    have htime : time? (joined ':' hh mm ss ++ rest) =
        some ({ hour := hh, minute := mm, second := ss }, rest) :=
      time?_eq_some_iff.mpr ⟨hh, mm, ss, h₁, h₂, h₃, rfl, rfl⟩
    refine ⟨y, m, d, sep :: (joined ':' hh mm ss ++ rest), ⟨hy, hm, hd, by simp⟩, ?_⟩
    rcases hsep with rfl | rfl
    · simp only [htime, Option.bind_some]
    · simp only [htime, Option.bind_some]

theorem fullMillis_eq_some_iff :
    fullMillis cs = some s ↔ ∃ (s' : Stamp) (p : List Char) (point : Char) (ms tail : List Char),
      s'.Hyphened p ∧ point ≠ '\n' ∧ IsDigits 3 ms ∧ s = { s' with milli := some ms } ∧
        cs = p ++ point :: (ms ++ tail) := by
  simp only [fullMillis, Option.bind_eq_bind, Option.bind_eq_some_iff, Prod.exists,
    dated?_eq_some_iff, millis?_eq_some_iff, Option.some.injEq]
  constructor
  · rintro ⟨s', _, ⟨p, hp, rfl⟩, ms, tail, ⟨hms, point, hpoint, rfl⟩, rfl⟩
    exact ⟨s', p, point, ms, tail, hp, hpoint, hms, rfl, rfl⟩
  · rintro ⟨s', p, point, ms, tail, hp, hpoint, hms, rfl, rfl⟩
    exact ⟨s', _, ⟨p, hp, rfl⟩, ms, tail, ⟨hms, point, hpoint, rfl⟩, rfl⟩

theorem full_eq_some_iff : full cs = some s ↔ ∃ p tail, s.Hyphened p ∧ cs = p ++ tail := by
  simp only [full, Option.map_eq_some_iff, Prod.exists, exists_and_right, exists_eq_right,
    dated?_eq_some_iff]
  exact exists_comm

theorem written_of_slashed (h : slashed cs = some s) : ∃ p tail, s.Written p ∧ cs = p ++ tail := by
  simp only [slashed, Option.bind_eq_bind, Option.bind_eq_some_iff, Prod.exists,
    digitRun?_eq_some_iff, char?_eq_some_iff, Option.some.injEq] at h
  obtain ⟨m, _, ⟨hm, rfl, -⟩, _, rfl, d, _, ⟨hd, rfl, -⟩, _, rfl, y, _, ⟨hy, rfl, -⟩, _, rfl, _,
    rfl, t, after, htime, rfl⟩ := h
  obtain ⟨hh, mm, ss, h₁, h₂, h₃, rfl, rfl⟩ := of_looseTime? htime
  obtain ⟨tail, htail⟩ := exists_eq_halfText_append after
  refine ⟨_, tail, .slashed (half? after) hm hd hy h₁ h₂ h₃, ?_⟩
  simp only [joined, List.append_assoc, List.cons_append, ← htail]

/-! ## The texts of stamps without a date -/

theorem year_eq_none_of_halfDay (h : halfDay cs = some s) : s.year = none := by
  simp only [halfDay, Option.bind_eq_bind, Option.bind_eq_some_iff, Prod.exists,
    Option.some.injEq] at h
  obtain ⟨t, rest, ht, half, -, rfl⟩ := h
  obtain ⟨hh, mm, ss, -, -, -, rfl, -⟩ := of_looseTime? ht
  rfl

theorem year_eq_none_of_clockMillis (h : clockMillis cs = some s) : s.year = none := by
  simp only [clockMillis, Option.bind_eq_bind, Option.bind_eq_some_iff, Prod.exists,
    Option.some.injEq] at h
  obtain ⟨t, rest, ht, ms, after, -, rfl⟩ := h
  obtain ⟨hh, mm, ss, -, -, -, rfl, -⟩ := time?_eq_some_iff.mp ht
  rfl

theorem year_eq_none_of_clock (h : clock cs = some s) : s.year = none := by
  simp only [clock, Option.map_eq_some_iff, Prod.exists, exists_and_right, exists_eq_right] at h
  obtain ⟨rest, ht⟩ := h
  obtain ⟨hh, mm, ss, -, -, -, rfl, -⟩ := time?_eq_some_iff.mp ht
  rfl

/-! ## Stamps in a text -/

theorem exists_of_findForm? {form : List Char → Option Stamp} (h : findForm? form cs = some s) :
    ∃ front rest, cs = front ++ rest ∧ form rest = some s := by
  induction cs with
  | nil => exact ⟨[], [], rfl, h⟩
  | cons c cs ih =>
    rw [findForm?, Option.or_eq_some_iff] at h
    rcases h with h | ⟨-, h⟩
    · exact ⟨[], c :: cs, rfl, h⟩
    · obtain ⟨front, rest, rfl, hrest⟩ := ih h
      exact ⟨c :: front, rest, rfl, hrest⟩

/-- **A stamp with a year is written in the text** in which it is found. -/
theorem exists_written_of_find? (h : find? cs = some s) {ys : List Char} (hy : s.year = some ys) :
    ∃ front p tail, cs = front ++ (p ++ tail) ∧ s.Written p := by
  obtain ⟨form, hform, h⟩ := List.exists_of_findSome?_eq_some h
  obtain ⟨front, rest, rfl, hread⟩ := exists_of_findForm? h
  have hwritten : ∃ p tail, s.Written p ∧ rest = p ++ tail := by
    simp only [forms, List.mem_cons, List.not_mem_nil, or_false] at hform
    rcases hform with rfl | rfl | rfl | rfl | rfl | rfl
    · obtain ⟨s', p, point, ms, tail, hp, hpoint, hms, rfl, rfl⟩ := fullMillis_eq_some_iff.mp hread
      exact ⟨_, tail, .fullMillis hp hpoint hms, by simp⟩
    · obtain ⟨p, tail, hp, rfl⟩ := full_eq_some_iff.mp hread
      exact ⟨p, tail, .full hp, rfl⟩
    · exact written_of_slashed hread
    · exact absurd hy (by simp [year_eq_none_of_halfDay hread])
    · exact absurd hy (by simp [year_eq_none_of_clockMillis hread])
    · exact absurd hy (by simp [year_eq_none_of_clock hread])
  obtain ⟨p, tail, hp, rfl⟩ := hwritten
  exact ⟨front, p, tail, rfl, hp⟩

end Logbook.Stamp
