import Logbook.Proofs.Time.Fields
import Logbook.Proofs.Time.Stamps
import Logbook.Text.Blank

/-!
# The two ends of a selection

One end may be typed as a number of units from the other one.

* `Control.IsRelative`, `Control.Spells`: texts that are relative to the other end, and what they
  say;
* `Control.Shifted`: the outcome of so many units from an instant;
* `Control.parse_of_spells`, `Control.parse_of_isRelative_none`: a relative control is read from the
  other end, and only from there;
* `Control.Resolves`: what the two ends have to be;
* **`Control.resolves_bounds`**: the two ends that are read from any two texts are such.
-/

namespace Logbook

namespace Text

/-- The blank characters. -/
def blanks : List Nat :=
  [9, 10, 11, 12, 13, 0x20, 0x85, 0xA0, 0x1680, 0x2000, 0x2001, 0x2002, 0x2003, 0x2004, 0x2005,
   0x2006, 0x2007, 0x2008, 0x2009, 0x200A, 0x2028, 0x2029, 0x202F, 0x205F, 0x3000]

theorem isDecimal_of_isBlank {c : Char} (h : isBlank c = true) :
    isDecimal c = false ∧ c ≠ '+' ∧ c ≠ '-' := by
  have hmem : c.toNat ∈ blanks := by
    simp only [isBlank, Bool.or_eq_true, Bool.and_eq_true, decide_eq_true_eq, beq_iff_eq] at h
    simp only [blanks, List.mem_cons, List.not_mem_nil, or_false]
    omega
  have hall : ∀ n ∈ blanks, isDecimal (Char.ofNat n) = false ∧ Char.ofNat n ≠ '+' ∧
      Char.ofNat n ≠ '-' := by decide
  have hc := hall _ hmem
  rwa [Char.ofNat_toNat] at hc

end Text

namespace Control

open Stamp (digits? digitRun? number? IsRun)

/-! ## Relative controls -/

/-- A control that begins with a sign is relative to the other end. -/
def IsRelative (text : String) : Prop := ∃ c ∈ text.toList.head?, c = '+' ∨ c = '-'

/-- **The text of a number of units** further on, or back: a sign, digits of any script, perhaps a
space, and a spelling of the unit. -/
def Spells (text : String) (back : Bool) (ds : List Char) (unit : TimeUnit) : Prop :=
  IsRun ds ∧ ∃ (space : List Char) (word : String), (space = [] ∨ space = [' ']) ∧
    (word, unit) ∈ unitWords ∧
      text.toList = (if back then '-' else '+') :: (ds ++ (space ++ word.toList))

variable {text start finish : String} {back : Bool} {ds : List Char} {unit : TimeUnit}
  {reference other : Option Instant} {t u : Instant} {n : Nat}

theorem isRelative_of_spells (h : Spells text back ds unit) : IsRelative text := by
  obtain ⟨-, space, word, -, -, htext⟩ := h
  rw [IsRelative, htext]
  cases back with
  | true => exact ⟨'-', rfl, .inr rfl⟩
  | false => exact ⟨'+', rfl, .inl rfl⟩

theorem head?_of_spells_back (h : Spells text true ds unit) : text.toList.head? = some '-' := by
  obtain ⟨-, space, word, -, -, htext⟩ := h
  rw [htext]
  rfl

theorem find?_unitWords {word : String} (h : (word, unit) ∈ unitWords) :
    unitWords.find? (fun w => word.toList == w.1.toList) = some (word, unit) := by
  have hall : ∀ w ∈ unitWords, unitWords.find? (fun w' => w.1.toList == w'.1.toList) = some w := by
    decide
  exact hall _ h

theorem exists_cons_of_mem_unitWords {word : String} (h : (word, unit) ∈ unitWords) :
    ∃ c cs, word.toList = c :: cs ∧ Text.isDecimal c = false ∧ c ≠ ' ' := by
  have hall : ∀ w ∈ unitWords, w.1.toList ≠ [] ∧
      w.1.toList.all (fun c => !Text.isDecimal c && c != ' ') = true := by decide
  obtain ⟨hne, hletters⟩ := hall _ h
  obtain ⟨c, cs, hcs⟩ := List.exists_cons_of_ne_nil hne
  rw [hcs, List.all_cons, Bool.and_eq_true, Bool.and_eq_true] at hletters
  exact ⟨c, cs, hcs, by simpa using hletters.1⟩

theorem relative?_of_spells (h : Spells text back ds unit) :
    relative? text.toList = some (back, ds, unit) := by
  obtain ⟨hds, space, word, hspace, hword, htext⟩ := h
  obtain ⟨c, cs, hcons, hletter, hne⟩ := exists_cons_of_mem_unitWords hword
  have hsign : ∀ rest, sign? ((if back then '-' else '+') :: rest) = some (back, rest) := by
    intro rest
    cases back with
    | true => rfl
    | false => rfl
  have hend : ∀ d ∈ (space ++ word.toList).head?, Text.isDecimal d = false := by
    rcases hspace with rfl | rfl
    · rw [hcons]
      rintro d ⟨⟩
      exact hletter
    · rintro d ⟨⟩
      decide
  have hdigits : digitRun? (ds ++ (space ++ word.toList)) = some (ds, space ++ word.toList) :=
    Stamp.digitRun?_eq_some_iff.mpr ⟨hds, rfl, hend⟩
  have hdrop : dropSpace (space ++ word.toList) = word.toList := by
    rcases hspace with rfl | rfl
    · rw [List.nil_append, hcons]
      unfold dropSpace
      split
      · next heq => exact absurd (List.cons.inj heq).1 hne
      · rfl
    · rfl
  rw [htext]
  simp only [relative?, Option.bind_eq_bind, hsign, Option.bind_some, hdigits, hdrop,
    find?_unitWords hword]

theorem startsWithDate_of_not_isDecimal {c : Char} (h : Text.isDecimal c = false) (cs : List Char) :
    startsWithDate (c :: cs) = false := by
  have hdigits : digits? 3 (c :: cs) = none := by simp [digits?, h]
  have hrun : digitRun? (c :: cs) = none := by simp [digitRun?, h]
  rw [startsWithDate, hdigits, hrun]
  rfl

theorem isDigit_of_not_isDecimal {c : Char} (h : Text.isDecimal c = false) : c.isDigit = false :=
  Bool.eq_false_iff.mpr fun hdigit => by
    rw [Text.isDecimal_of_isDigit hdigit] at h
    exact absurd h (by simp)

theorem parse_of_isRelative (h : IsRelative text) :
    parse text reference other = parseRelative text.toList other := by
  obtain ⟨c, hc, hsign⟩ := h
  obtain ⟨cs, htext⟩ := List.head?_eq_some_iff.mp hc
  have hdecimal : Text.isDecimal c = false := by
    rcases hsign with rfl | rfl
    · decide
    · decide
  simp only [parse, htext, startsWithDate_of_not_isDecimal hdecimal,
    isDigit_of_not_isDecimal hdecimal, hsign, Bool.false_eq_true, if_false, if_true]

theorem parse_of_isRelative_none (h : IsRelative text) :
    parse text reference none = .error .needStart := by
  rw [parse_of_isRelative h]
  rfl

/-- From the other end, units are read as they are spelt. -/
theorem parse_of_spells (h : Spells text back ds unit) (t : Instant) :
    parse text reference (some t) = shift t back ds unit.millis := by
  rw [parse_of_isRelative (isRelative_of_spells h), parseRelative, relative?_of_spells h]
  rfl

theorem parse_of_isAllBlank (h : Text.isAllBlank text.toList = true) :
    parse text reference other ≠ .ok (some t) := by
  unfold parse
  split
  · simp
  · next c cs htext =>
    have hblank : Text.isBlank c = true := by
      rw [htext, Text.isAllBlank, List.all_cons, Bool.and_eq_true] at h
      exact h.1
    obtain ⟨hdecimal, hplus, hminus⟩ := Text.isDecimal_of_isBlank hblank
    simp [startsWithDate_of_not_isDecimal hdecimal, isDigit_of_not_isDecimal hdecimal, hplus,
      hminus]

/-! ## Some units from an instant -/

/-- The milliseconds of the instant `n` units further on, or back. -/
def unitsFrom (t : Instant) (back : Bool) (n : Nat) (unit : TimeUnit) : Int :=
  if back then t.millis - n * unit.millis else t.millis + n * unit.millis

/-- **The outcome of so many units from an instant**, their number being written in `ds`. -/
structure Shifted (t : Instant) (back : Bool) (ds : List Char) (unit : TimeUnit) (o : Outcome) :
    Prop where
  moved : ∀ n (u : Instant), Text.Writes ds n → n < 0x100000000 →
    u.millis = unitsFrom t back n unit → o = .ok (some u)
  /-- The number does not fit 32 bits. -/
  too_large : ∀ n, Text.Writes ds n → 0x100000000 ≤ n → o = .error .invalidDateTime
  /-- The calendar does not go so far. -/
  outside : ∀ n, Text.Writes ds n → (∀ u : Instant, u.millis ≠ unitsFrom t back n unit) →
    o = .error .invalidDateTime
  /-- Digits other than the ASCII ones write no number. -/
  foreign : (∀ n, ¬ Text.Writes ds n) → o = .error .invalidDateTime

theorem shift_of_none (h : number? ds = none) :
    shift t back ds unit.millis = .error .invalidDateTime := by
  unfold shift
  rw [h]
  rfl

theorem shift_of_some (h : number? ds = some n) :
    shift t back ds unit.millis = match Instant.ofMillis? (unitsFrom t back n unit) with
      | some u => .ok (some u)
      | none => .error .invalidDateTime := by
  have hadd : t.add? (if back then -(n * unit.millis) else n * unit.millis) =
      Instant.ofMillis? (unitsFrom t back n unit) := by
    unfold Instant.add? unitsFrom
    split
    · rw [Int.sub_eq_add_neg]
    · rfl
  unfold shift
  rw [h]
  simp only [orError, bind, Except.bind, hadd]
  cases Instant.ofMillis? (unitsFrom t back n unit) with
  | none => rfl
  | some u => rfl

theorem shifted_shift (hds : ∀ c ∈ ds, Text.isDecimal c = true) (t : Instant) (back : Bool)
    (unit : TimeUnit) : Shifted t back ds unit (shift t back ds unit.millis) where
  moved n u hn hlt hu := by
    rw [shift_of_some ((Stamp.number?_eq_some_iff hds).mpr ⟨hn, hlt⟩),
      Instant.ofMillis?_eq_some_iff.mpr hu]
  too_large n hn hle := by
    refine shift_of_none (Option.eq_none_iff_forall_ne_some.mpr fun m hm => ?_)
    obtain ⟨hwrites, hlt⟩ := (Stamp.number?_eq_some_iff hds).mp hm
    have := hn.unique hwrites
    omega
  outside n hn hno := by
    cases hnumber : number? ds with
    | none => exact shift_of_none hnumber
    | some m =>
      obtain rfl := hn.unique ((Stamp.number?_eq_some_iff hds).mp hnumber).1
      have hnone : Instant.ofMillis? (unitsFrom t back n unit) = none :=
        Option.eq_none_iff_forall_ne_some.mpr fun u hu =>
          hno u (Instant.ofMillis?_eq_some_iff.mp hu)
      rw [shift_of_some hnumber, hnone]
  foreign hno := by
    refine shift_of_none (Option.eq_none_iff_forall_ne_some.mpr fun m hm => ?_)
    exact hno m ((Stamp.number?_eq_some_iff hds).mp hm).1

/-- Going back leads to no later instant, and going on to no earlier one. -/
theorem le_of_shift (h : shift t back ds unit.millis = .ok (some u)) :
    if back then u ≤ t else t ≤ u := by
  have hunit : 0 ≤ unit.millis := by cases unit <;> decide
  cases hnumber : number? ds with
  | none => rw [shift_of_none hnumber] at h; exact absurd h (by simp)
  | some n =>
    have hstep : 0 ≤ n * unit.millis := Int.mul_nonneg (Int.natCast_nonneg n) hunit
    rw [shift_of_some hnumber] at h
    cases hmillis : Instant.ofMillis? (unitsFrom t back n unit) with
    | none => rw [hmillis] at h; exact absurd h (by simp)
    | some v =>
      rw [hmillis] at h
      obtain rfl := Option.some.inj (Except.ok.inj h)
      have hv := Instant.ofMillis?_eq_some_iff.mp hmillis
      unfold unitsFrom at hv
      cases back with
      | true =>
        refine show v.millis ≤ t.millis from ?_
        simp only [if_true] at hv
        omega
      | false =>
        refine show t.millis ≤ v.millis from ?_
        simp only [Bool.false_eq_true, if_false] at hv
        omega

/-! ## Both ends -/

/-- Nothing is typed, or something that is not read. -/
def IsBlankOrFails (text : String) (reference : Option Instant) : Prop :=
  Text.isAllBlank text.toList = true ∨ ∃ e, parse text reference none = .error e

/-- **What two ends have to be** that are read from two texts. -/
structure Resolves (start finish : String) (reference : Option Instant) (o : Outcome × Outcome) :
    Prop where
  /-- A start of units back from the end. -/
  start_from_finish : ∀ ds unit t, Spells start true ds unit →
    parse finish reference none = .ok (some t) → Shifted t true ds unit o.1 ∧ o.2 = .ok (some t)
  /-- An end of units from the start, on or back. -/
  finish_from_start : ∀ back ds unit t, start.toList.head? ≠ some '-' → Spells finish back ds unit →
    parse start reference none = .ok (some t) → o.1 = .ok (some t) ∧ Shifted t back ds unit o.2
  /-- A start that begins with a minus, and no end to count from. -/
  start_alone : start.toList.head? = some '-' → IsBlankOrFails finish reference →
    o = (.error .needStart, parse finish reference none)
  /-- A relative end, and no start to count from. -/
  finish_alone : start.toList.head? ≠ some '-' → IsRelative finish →
    IsBlankOrFails start reference → o = (parse start reference none, .error .needStart)
  not_both_relative : IsRelative start → IsRelative finish →
    ¬ ((∃ t, o.1 = .ok (some t)) ∧ ∃ u, o.2 = .ok (some u))
  le_of_start : ∀ ds unit t u, Spells start true ds unit → o = (.ok (some t), .ok (some u)) → t ≤ u
  le_of_finish : ∀ ds unit t u, start.toList.head? ≠ some '-' → Spells finish false ds unit →
    o = (.ok (some t), .ok (some u)) → t ≤ u

theorem bounds_of_minus (h : start.toList.head? = some '-') : bounds start finish reference =
    (parse start reference (bound (parse finish reference none)), parse finish reference none) :=
  if_pos h

theorem bounds_of_not_minus (h : start.toList.head? ≠ some '-') : bounds start finish reference =
    (parse start reference none, parse finish reference (bound (parse start reference none))) :=
  if_neg h

theorem bound_eq_some {o : Outcome} : bound o = some t ↔ o = .ok (some t) := by
  cases o with
  | ok t' => simp [bound]
  | error e => simp [bound]

theorem bound_of_isBlankOrFails (h : IsBlankOrFails text reference) :
    bound (parse text reference none) = none := by
  rcases h with hblank | ⟨e, he⟩
  · exact Option.eq_none_iff_forall_ne_some.mpr fun t ht =>
      parse_of_isAllBlank hblank (bound_eq_some.mp ht)
  · rw [he]
    rfl

theorem isRelative_of_minus (h : text.toList.head? = some '-') : IsRelative text :=
  ⟨'-', h, .inr rfl⟩

/-- **Both ends of a selection** are read from two texts as they have to be, whatever the
records. -/
theorem resolves_bounds (start finish : String) (rs : List Record) :
    Resolves start finish (referenceDate (Record.times rs))
      (bounds start finish (referenceDate (Record.times rs))) := by
  generalize referenceDate (Record.times rs) = reference
  constructor
  case start_from_finish =>
    intro ds unit t hstart hfinish
    rw [bounds_of_minus (head?_of_spells_back hstart), hfinish]
    refine ⟨?_, rfl⟩
    rw [bound_eq_some.mpr rfl, parse_of_spells hstart]
    exact shifted_shift hstart.1.isDecimal t true unit
  case finish_from_start =>
    intro back ds unit t hminus hfinish hstart
    rw [bounds_of_not_minus hminus, hstart]
    refine ⟨rfl, ?_⟩
    rw [bound_eq_some.mpr rfl, parse_of_spells hfinish]
    exact shifted_shift hfinish.1.isDecimal t back unit
  case start_alone =>
    intro hminus hfinish
    rw [bounds_of_minus hminus, bound_of_isBlankOrFails hfinish,
      parse_of_isRelative_none (isRelative_of_minus hminus)]
  case finish_alone =>
    intro hminus hfinish hstart
    rw [bounds_of_not_minus hminus, bound_of_isBlankOrFails hstart,
      parse_of_isRelative_none hfinish]
  case not_both_relative =>
    rintro hstart hfinish ⟨⟨t, ht⟩, u, hu⟩
    by_cases hminus : start.toList.head? = some '-'
    · rw [bounds_of_minus hminus, parse_of_isRelative_none hfinish] at hu
      exact absurd hu (by simp)
    · rw [bounds_of_not_minus hminus, parse_of_isRelative_none hstart] at ht
      exact absurd ht (by simp)
  case le_of_start =>
    intro ds unit t u hstart ho
    rw [bounds_of_minus (head?_of_spells_back hstart)] at ho
    obtain ⟨ht, hu⟩ := Prod.mk.inj ho
    rw [hu, bound_eq_some.mpr rfl, parse_of_spells hstart] at ht
    exact le_of_shift ht
  case le_of_finish =>
    intro ds unit t u hminus hfinish ho
    rw [bounds_of_not_minus hminus] at ho
    obtain ⟨ht, hu⟩ := Prod.mk.inj ho
    rw [ht, bound_eq_some.mpr rfl, parse_of_spells hfinish] at hu
    exact le_of_shift hu

/-- Five seconds back from an end, and two hours on from a start. -/
theorem resolves_bounds_november :
    let reference := referenceDate (Record.times [])
    let t : Instant := ⟨1636711200000, by decide⟩
    Spells "-5s" true ['5'] .second ∧ Spells "+02 hours" false ['0', '2'] .hour ∧
      parse "2021-11-12 10:00:00" reference none = .ok (some t) ∧
      bounds "-5s" "2021-11-12 10:00:00" reference =
        (.ok (some ⟨1636711195000, by decide⟩), .ok (some t)) ∧
      bounds "2021-11-12 10:00:00" "+02 hours" reference =
        (.ok (some t), .ok (some ⟨1636718400000, by decide⟩)) := by
  intro reference t
  have hback : Spells "-5s" true ['5'] .second :=
    ⟨⟨by decide, (Text.writes_decimal 5).isDecimal⟩, [], "s", .inl rfl, by decide, rfl⟩
  have hon : Spells "+02 hours" false ['0', '2'] .hour :=
    ⟨⟨by decide, (Text.writes_padded 2 2).isDecimal⟩, [' '], "hours", .inr rfl, by decide, rfl⟩
  have hparse : parse "2021-11-12 10:00:00" reference none = .ok (some t) :=
    bound_eq_some.mp (by decide +kernel)
  have hstart :=
    (resolves_bounds "-5s" "2021-11-12 10:00:00" []).start_from_finish _ _ t hback hparse
  have hfinish := (resolves_bounds "2021-11-12 10:00:00" "+02 hours" []).finish_from_start _ _ _ t
    (by decide) hon hparse
  refine ⟨hback, hon, hparse, Prod.ext ?_ hstart.2, Prod.ext hfinish.1 ?_⟩
  · exact hstart.1.moved 5 _ (Text.writes_decimal 5) (by decide) rfl
  · exact hfinish.2.moved 2 _ (Text.writes_padded 2 2) (by decide) rfl

end Control

end Logbook
