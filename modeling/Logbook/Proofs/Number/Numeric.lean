import Logbook.Number.Numeric
import Logbook.Proofs.Number.Bits
import Logbook.Proofs.Number.Literals
import Logbook.Proofs.Text.Blanks
import Logbook.Proofs.Text.Hexadecimal

/-!
# Which texts count as numbers

* `CountsAs`: the texts that count as numbers, and their numbers;
* **`numericTrimmed_eq_iff`**: a text without blanks around it counts as a number just when it is
  one of these;
* `SignedHex`: a plus sign behind `0x`, **`countsAs_writesHex_iff`**: what such a sign makes out.
-/

namespace Logbook

open Text (WritesHex NumeralHex)

/-- **The texts that count as numbers**, and their numbers. The digits behind `0x` write a number as
`hex` says. -/
inductive CountsAs (hex : List Char → Nat → Prop) : List Char → Float → Prop where
  | empty : CountsAs hex [] (Binary64.ofNat 0)
  | infinity : CountsAs hex "Infinity".toList Binary64.infinity
  | plusInfinity : CountsAs hex "+Infinity".toList Binary64.infinity
  | minusInfinity : CountsAs hex "-Infinity".toList
    (Binary64.ofMagnitude true Binary64.infinityBits)
  | hexadecimal {x : Char} {ds : List Char} {n : Nat} : x = 'x' ∨ x = 'X' → hex ds n →
    n < 0x10000000000000000 → CountsAs hex ('0' :: x :: ds) (Binary64.ofNat n)
  | literal {cs : List Char} {l : Literal} : Literal.Written cs l → CountsAs hex cs l.value

theorem hexDigits?_eq_some_iff {cs ds : List Char} :
    hexDigits? cs = some ds ↔ ∃ x, (x = 'x' ∨ x = 'X') ∧ cs = '0' :: x :: ds := by
  constructor
  · intro h
    unfold hexDigits? at h
    split at h
    · obtain rfl := Option.some.inj h
      exact ⟨'x', .inl rfl, rfl⟩
    · obtain rfl := Option.some.inj h
      exact ⟨'X', .inr rfl, rfl⟩
    · cases h
  · rintro ⟨x, rfl | rfl, rfl⟩ <;> rfl

theorem Literal.Written.hexDigits?_eq_none {cs : List Char} {l : Literal}
    (h : Literal.Written cs l) : hexDigits? cs = none := by
  rw [← Literal.read?_eq_some_iff] at h
  cases hds : hexDigits? cs with
  | none => rfl
  | some ds =>
    obtain ⟨x, rfl | rfl, rfl⟩ := hexDigits?_eq_some_iff.1 hds <;> cases h

/-- A literal is neither empty nor a name. -/
theorem numericTrimmed_literal {cs : List Char} {l : Literal} (h : Literal.Written cs l) :
    numericTrimmed cs = l.value := by
  have hread := Literal.read?_eq_some_iff.2 h
  -- what is tried ahead of literals are texts that are none
  have hne : ∀ {ds : List Char}, Literal.read? ds = none → cs ≠ ds := by
    rintro ds hds rfl
    rw [hds] at hread
    cases hread
  have hempty : cs.isEmpty = false := List.isEmpty_eq_false_iff.2 (hne rfl)
  rw [numericTrimmed, hempty, h.hexDigits?_eq_none]
  simp only [hne (by decide : Literal.read? "Infinity".toList = none),
    hne (by decide : Literal.read? "+Infinity".toList = none),
    hne (by decide : Literal.read? "-Infinity".toList = none), Literal.toFloat?, hread]
  rfl

theorem numericTrimmed_hexadecimal {x : Char} (hx : x = 'x' ∨ x = 'X') {ds : List Char} {n : Nat}
    (hds : NumeralHex ds n) (hn : n < 0x10000000000000000) :
    numericTrimmed ('0' :: x :: ds) = Binary64.ofNat n := by
  have hread := Text.readHex?_eq_some_iff.2 ⟨hds, hn⟩
  have hhex : hexDigits? ('0' :: x :: ds) = some ds := hexDigits?_eq_some_iff.2 ⟨x, hx, rfl⟩
  rw [numericTrimmed, hhex]
  simp [hread]

theorem nan_ne {x : Float} (h : x.isNaN = false) : Binary64.nan ≠ x := by
  rintro rfl
  exact absurd h (by decide +kernel)

/-- **A text counts as a number** just when it is one of the texts that do. It has no blanks around
it. -/
theorem numericTrimmed_eq_iff {cs : List Char} {x : Float} :
    numericTrimmed cs = x ∧ x.isNaN = false ↔ CountsAs NumeralHex cs x := by
  constructor
  · rintro ⟨hx, hnan⟩
    unfold numericTrimmed at hx
    split at hx
    · next hempty =>
      obtain rfl := List.isEmpty_iff.1 hempty
      exact hx ▸ .empty
    split at hx
    · next hname =>
      obtain rfl | rfl := hname
      · exact hx ▸ .infinity
      · exact hx ▸ .plusInfinity
    split at hx
    · next hname => exact hx ▸ hname ▸ .minusInfinity
    split at hx
    · next ds hds =>
      obtain ⟨c, hc, rfl⟩ := hexDigits?_eq_some_iff.1 hds
      cases hread : Text.readHex? 0x10000000000000000 ds with
      | none =>
        rw [hread] at hx
        exact absurd hx (nan_ne hnan)
      | some n =>
        rw [hread] at hx
        obtain ⟨hn, hlt⟩ := Text.readHex?_eq_some_iff.1 hread
        exact hx ▸ .hexadecimal hc hn hlt
    · cases hread : Literal.read? cs with
      | none =>
        rw [Literal.toFloat?, hread] at hx
        exact absurd hx (nan_ne hnan)
      | some l =>
        rw [Literal.toFloat?, hread] at hx
        exact hx ▸ .literal (Literal.read?_eq_some_iff.1 hread)
  · intro h
    cases h with
    | empty => exact ⟨rfl, Binary64.isNaN_ofRatio _ _ _⟩
    | infinity | plusInfinity | minusInfinity => exact ⟨by decide, Binary64.isNaN_ofMagnitude _ _⟩
    | hexadecimal hx hds hn =>
      exact ⟨numericTrimmed_hexadecimal hx hds hn, Binary64.isNaN_ofRatio _ _ _⟩
    | literal h => exact ⟨numericTrimmed_literal h, Literal.isNaN_value _⟩

/-! ## Blanks -/

theorem not_isBlank_of_all {cs : List Char} (h : (cs.all fun c => !Text.isBlank c) = true) :
    ∀ c ∈ cs, Text.isBlank c = false := fun c hc => by
  simpa using List.all_eq_true.1 h c hc

theorem Literal.Written.not_isBlank {cs : List Char} {l : Literal} (h : Literal.Written cs l) :
    ∀ c ∈ cs, Text.isBlank c = false := by
  have hdigits : ∀ {ds : List Char}, Literal.Digits ds → ∀ c ∈ ds, Text.isBlank c = false :=
    fun hds c hc => Text.not_isBlank_of_isDigit (hds c hc)
  have hsigns : ∀ {sign : List Char} {negative : Bool}, Literal.IsSign sign negative →
      ∀ c ∈ sign, Text.isBlank c = false := by
    rintro _ _ (_ | _ | _) <;> exact not_isBlank_of_all (by decide)
  obtain ⟨negative, whole, fraction, exponent⟩ := l
  obtain ⟨hsign, hwhole, hfraction, hexponent, -⟩ := h
  dsimp only at hsign hwhole hfraction hexponent
  simp only [List.mem_append]
  rintro c (hc | hc | hc | hc)
  · exact hsigns hsign c hc
  · exact hdigits hwhole c hc
  · cases hfraction with
    | none => cases hc
    | point hds =>
      obtain rfl | hc := List.mem_cons.1 hc
      · decide
      · exact hdigits hds c hc
  · cases hexponent with
    | none => cases hc
    | some he hsign _ hds =>
      obtain rfl | hc := List.mem_cons.1 hc
      · rcases he with rfl | rfl <;> decide
      · exact (List.mem_append.1 hc).elim (hsigns hsign c) (hdigits hds c)

theorem CountsAs.not_isBlank {cs : List Char} {x : Float} (h : CountsAs WritesHex cs x) :
    ∀ c ∈ cs, Text.isBlank c = false := by
  cases h with
  | empty => nofun
  | infinity | plusInfinity | minusInfinity => exact not_isBlank_of_all (by decide)
  | hexadecimal hx hds _ =>
    simp only [List.mem_cons]
    rintro c (rfl | rfl | hc)
    · decide
    · rcases hx with rfl | rfl <;> decide
    · exact Text.not_isBlank_of_isHex (hds.isHex c hc)
  | literal h => exact h.not_isBlank

/-! ## Signs -/

/-- A plus sign behind `0x`. -/
def SignedHex (cs : List Char) : Prop := (hexDigits? cs).bind List.head? = some '+'

instance (cs : List Char) : Decidable (SignedHex cs) :=
  inferInstanceAs (Decidable ((hexDigits? cs).bind List.head? = some '+'))

/-- **With hexadecimal digits alone behind `0x`**, the same texts count as numbers, but for those
with a sign there. -/
theorem countsAs_writesHex_iff {cs : List Char} {x : Float} :
    CountsAs WritesHex cs x ↔ CountsAs NumeralHex cs x ∧ ¬SignedHex cs := by
  unfold SignedHex
  constructor
  · intro h
    cases h with
    | empty => exact ⟨.empty, by decide⟩
    | infinity => exact ⟨.infinity, by decide⟩
    | plusInfinity => exact ⟨.plusInfinity, by decide⟩
    | minusInfinity => exact ⟨.minusInfinity, by decide⟩
    | hexadecimal hx hds hn =>
      rw [hexDigits?_eq_some_iff.2 ⟨_, hx, rfl⟩]
      exact ⟨.hexadecimal hx (.inl hds) hn, hds.head?_ne_plus⟩
    | literal h =>
      rw [h.hexDigits?_eq_none]
      exact ⟨.literal h, nofun⟩
  · rintro ⟨h, hsign⟩
    cases h with
    | empty => exact .empty
    | infinity => exact .infinity
    | plusInfinity => exact .plusInfinity
    | minusInfinity => exact .minusInfinity
    | hexadecimal hx hds hn =>
      rw [hexDigits?_eq_some_iff.2 ⟨_, hx, rfl⟩] at hsign
      exact .hexadecimal hx (hds.writesHex_iff.2 hsign) hn
    | literal h => exact .literal h

end Logbook
