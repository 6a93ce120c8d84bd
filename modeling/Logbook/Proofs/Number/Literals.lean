import Logbook.Number.Literal
import Logbook.Proofs.Text.Numerals

/-!
# Decimal literals as texts

* `Digits`, `IsSign`, `IsFraction`, `IsExponent`: how the parts of a literal are written;
* `Literal.Written`: how a whole literal is written;
* **`Literal.read?_eq_some_iff`**: a text is read as the literal that it writes.
-/

namespace Logbook.Literal

/-! ## Parts of a literal -/

/-- Nothing but digits. -/
def Digits (ds : List Char) : Prop := ∀ c ∈ ds, c.isDigit = true

/-- An optional sign, and whether it is a minus. -/
inductive IsSign : List Char → Bool → Prop where
  | none : IsSign [] false
  | plus : IsSign ['+'] false
  | minus : IsSign ['-'] true

/-- An optional fraction, and its digits. -/
inductive IsFraction : List Char → List Char → Prop where
  | none : IsFraction [] []
  | point {ds : List Char} : Digits ds → IsFraction ('.' :: ds) ds

/-- An optional exponent with its sign and at least one digit. -/
inductive IsExponent : List Char → Option Exponent → Prop where
  | none : IsExponent [] none
  | some {e : Char} {sign ds : List Char} {negative : Bool} : e = 'e' ∨ e = 'E' →
    IsSign sign negative → ds ≠ [] → Digits ds →
    IsExponent (e :: (sign ++ ds)) (some ⟨negative, ds⟩)

/-- **How a literal is written**: an optional sign, digits, an optional fraction and an optional
exponent, with a digit in front of the point or behind it. -/
inductive Written : List Char → Literal → Prop where
  | intro {sign fraction exponent : List Char} {l : Literal} : IsSign sign l.negative →
    Digits l.whole → IsFraction fraction l.fraction → IsExponent exponent l.exponent →
    l.whole ≠ [] ∨ l.fraction ≠ [] → Written (sign ++ (l.whole ++ (fraction ++ exponent))) l

/-! ## Signs -/

/-- What does not begin with a sign. -/
def Unsigned (cs : List Char) : Prop := ∀ c ∈ cs.head?, c ≠ '+' ∧ c ≠ '-'

theorem readSign_append {sign cs : List Char} {negative : Bool} (h : IsSign sign negative)
    (hcs : Unsigned cs) : readSign (sign ++ cs) = (negative, cs) := by
  cases h with
  | none =>
    cases cs with
    | nil => rfl
    | cons c cs =>
      obtain ⟨hplus, hminus⟩ := hcs c rfl
      simp [readSign, hplus, hminus]
  | plus | minus => rfl

theorem exists_sign {cs rest : List Char} {negative : Bool} (h : readSign cs = (negative, rest)) :
    ∃ sign, cs = sign ++ rest ∧ IsSign sign negative := by
  unfold readSign at h
  split at h <;> obtain ⟨rfl, rfl⟩ := Prod.mk.inj h
  · exact ⟨['-'], rfl, .minus⟩
  · exact ⟨['+'], rfl, .plus⟩
  · exact ⟨[], rfl, .none⟩

theorem unsigned_of_isDigit {c : Char} {cs : List Char} (h : c.isDigit = true) :
    Unsigned (c :: cs) := by
  rintro _ ⟨⟩
  constructor <;> rintro rfl <;> exact absurd h (by decide)

/-! ## Exponents -/

theorem readExponent?_eq_some_iff {cs : List Char} {e : Option Exponent} :
    readExponent? cs = some e ↔ IsExponent cs e := by
  constructor
  · intro h
    unfold readExponent? at h
    split at h
    · obtain rfl := Option.some.inj h
      exact .none
    · next c cs =>
      split at h
      · next hc =>
        split at h
        next negative ds hsign =>
          split at h
          · next hds =>
            obtain rfl := Option.some.inj h
            obtain ⟨sign, rfl, hwritten⟩ := exists_sign hsign
            rw [Bool.and_eq_true, Bool.not_eq_true', List.isEmpty_eq_false_iff,
              List.all_eq_true] at hds
            exact .some hc hwritten hds.1 hds.2
          · cases h
      · cases h
  · rintro (_ | @⟨c, sign, ds, negative, hc, hsign, hne, hds⟩)
    · rfl
    · obtain ⟨d, ds, rfl⟩ := List.exists_cons_of_ne_nil hne
      have hread := readSign_append hsign (@unsigned_of_isDigit d ds (hds d List.mem_cons_self))
      have hall : (d :: ds).all Char.isDigit = true := List.all_eq_true.2 hds
      simp only [readExponent?, if_pos hc, hread, hall]
      rfl

/-! ## Literals -/

theorem IsExponent.not_isDigit {cs : List Char} {e : Option Exponent} (h : IsExponent cs e) :
    ∀ c ∈ cs.head?, c.isDigit = false ∧ c ≠ '.' := by
  cases h with
  | none => simp
  | some he =>
    rintro _ ⟨⟩
    rcases he with rfl | rfl <;> decide

/-- The fraction at the start of a text, and what is behind it. -/
def splitFraction : List Char → List Char × List Char
  | '.' :: rest => (rest.takeWhile Char.isDigit, rest.dropWhile Char.isDigit)
  | rest => ([], rest)

theorem splitFraction_of_ne {rest : List Char} (h : ∀ c ∈ rest.head?, c ≠ '.') :
    splitFraction rest = ([], rest) := by
  unfold splitFraction
  split
  · exact absurd rfl (h '.' rfl)
  · rfl

theorem read?_eq (cs : List Char) : read? cs =
    let body := (readSign cs).2
    let whole := body.takeWhile Char.isDigit
    let rest := splitFraction (body.dropWhile Char.isDigit)
    if whole.isEmpty && rest.1.isEmpty then none
    else (readExponent? rest.2).map fun e => ⟨(readSign cs).1, whole, rest.1, e⟩ := by
  unfold read?
  generalize readSign cs = signed
  obtain ⟨negative, body⟩ := signed
  dsimp only
  cases body.dropWhile Char.isDigit with
  | nil => rfl
  | cons c rest =>
    by_cases hc : c = '.'
    · subst hc
      rfl
    · rw [splitFraction_of_ne (by rintro _ ⟨⟩; exact hc)]
      simp [hc]

theorem splitFraction_append {fraction rest ds : List Char} (h : IsFraction fraction ds)
    (hrest : ∀ c ∈ rest.head?, c.isDigit = false ∧ c ≠ '.') :
    splitFraction (fraction ++ rest) = (ds, rest) := by
  cases h with
  | none => exact splitFraction_of_ne fun c hc => (hrest c hc).2
  | point hds =>
    obtain ⟨htake, hdrop⟩ := Text.takeWhile_dropWhile_append hds fun c hc => (hrest c hc).1
    simp [splitFraction, htake, hdrop]

theorem exists_fraction (cs : List Char) : ∃ fraction,
    cs = fraction ++ (splitFraction cs).2 ∧ IsFraction fraction (splitFraction cs).1 := by
  unfold splitFraction
  split
  · next rest =>
    refine ⟨'.' :: rest.takeWhile Char.isDigit, ?_, .point (List.all_eq_true.1 List.all_takeWhile)⟩
    rw [List.cons_append, List.takeWhile_append_dropWhile]
  · exact ⟨[], rfl, .none⟩

/-- **A text is read as the literal that it writes.** -/
theorem read?_eq_some_iff {cs : List Char} {l : Literal} : read? cs = some l ↔ Written cs l := by
  rw [read?_eq]
  constructor
  · intro h
    generalize hsigned : readSign cs = signed at h
    obtain ⟨negative, body⟩ := signed
    dsimp only at h
    split at h
    · cases h
    · next hdigits =>
      obtain ⟨e, he, rfl⟩ := Option.map_eq_some_iff.1 h
      obtain ⟨sign, rfl, hsign⟩ := exists_sign hsigned
      obtain ⟨fraction, hrest, hfraction⟩ := exists_fraction (body.dropWhile Char.isDigit)
      have hwhole : Digits (body.takeWhile Char.isDigit) := List.all_eq_true.1 List.all_takeWhile
      rw [Bool.not_eq_true, Bool.and_eq_false_iff, List.isEmpty_eq_false_iff,
        List.isEmpty_eq_false_iff] at hdigits
      have hwritten := Written.intro (l := ⟨negative, _, _, e⟩) hsign hwhole hfraction
        (readExponent?_eq_some_iff.1 he) hdigits
      rwa [← hrest, List.takeWhile_append_dropWhile] at hwritten
  · obtain ⟨negative, whole, digits, e⟩ := l
    rintro @⟨sign, fraction, exponent, _, hsign, hwhole, hfraction, hexponent, hne⟩
    dsimp only at hsign hwhole hfraction hexponent hne ⊢
    have hbody : Unsigned (whole ++ (fraction ++ exponent)) := by
      cases whole with
      | cons c ds => exact unsigned_of_isDigit (hwhole c List.mem_cons_self)
      | nil =>
        -- without digits in front of it, the point comes first
        cases hfraction with
        | none => exact absurd hne (by simp)
        | point hds => rintro _ ⟨⟩; decide
    have htail : ∀ c ∈ (fraction ++ exponent).head?, c.isDigit = false := by
      cases hfraction with
      | none => exact fun c hc => (hexponent.not_isDigit c hc).1
      | point hds => rintro _ ⟨⟩; rfl
    obtain ⟨htake, hdrop⟩ := Text.takeWhile_dropWhile_append hwhole htail
    have hempty : (whole.isEmpty && digits.isEmpty) = false := by
      rw [Bool.and_eq_false_iff, List.isEmpty_eq_false_iff, List.isEmpty_eq_false_iff]
      exact hne
    simp only [readSign_append hsign hbody, htake, hdrop,
      splitFraction_append hfraction hexponent.not_isDigit, hempty,
      readExponent?_eq_some_iff.2 hexponent]
    rfl

end Logbook.Literal
