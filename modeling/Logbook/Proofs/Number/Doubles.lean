import Mathlib
import Logbook.Number.Numeric

/-!
# Equal doubles

Equal doubles are the same double, but for NaN, which equals nothing, and for the two zeros, which
equal each other.

* `congr_of_beq`: what does not tell the zeros apart is the same for equal doubles;
* `ofMagnitude_parts`: a finite double from its sign, its mantissa and its exponent;
* `log2_whole`: the length of an integer that a double is;
* **`beq_ofInt`**: a double that is an integer equals the double nearest to that integer.
-/

namespace Logbook.Binary64

open Float.Model (UnpackedFloat)
open Float.Model.UnpackedFloat (unpackExponent)

/-! ## Equality -/

/-- What makes no difference between the zeros makes none between equal doubles. -/
theorem congr_of_beq {α : Type} (f : Float → α) (hf : f 0 = f (-0)) {x y : Float}
    (h : (x == y) = true) : f x = f y := by
  obtain ⟨-, -, rfl | ⟨rfl, rfl⟩ | ⟨rfl, rfl⟩⟩ := Float.beq_iff_ne_nan_and_eq.1 h
  · rfl
  · exact hf
  · exact hf.symm

theorem beq_self_iff {x : Float} : (x == x) = true ↔ x.isNaN = false := by
  rw [Float.beq_self_iff, Float.isNaN_eq_decide_eq_nan, decide_eq_false_iff_not]

theorem beq_self_of_isFinite {x : Float} (h : x.isFinite = true) : (x == x) = true := by
  rw [Float.beq_self_iff]
  rintro rfl
  cases h

/-! ## The parts of a finite double -/

theorem toNat_unpackExponent (b : BitVec 64) :
    (@unpackExponent .binary64 b).toNat = b.toNat / hiddenBit % 0x800 := by
  simp only [unpackExponent, BitVec.toNat_cast, BitVec.extractLsb, BitVec.extractLsb'_toNat,
    Nat.shiftRight_eq_div_pow]
  rfl

theorem biased_lt_of_isFinite {x : Float} (h : x.isFinite = true) :
    x.toBits.toNat / hiddenBit % 0x800 < 2047 := by
  by_contra hle
  have he : @unpackExponent .binary64 x.toBits.toBitVec = -1 := by
    refine BitVec.eq_of_toNat_eq ?_
    rw [toNat_unpackExponent]
    change x.toBits.toNat / hiddenBit % 0x800 = 2047
    have hmod := Nat.mod_lt (x.toBits.toNat / hiddenBit) (y := 0x800) (by decide)
    omega
  have hfinite : (UnpackedFloat.unpack .binary64 x.toBits.toBitVec).isFinite = true := h
  rw [UnpackedFloat.unpack] at hfinite
  split at hfinite
  · split at hfinite <;> cases hfinite
  · next hne => exact hne he

/-- A mantissa and an exponent as those of a finite double are: a mantissa that lacks the first bit
has the least exponent. -/
structure Parts.Canonical (p : Parts) : Prop where
  lt : p.mantissa < 2 * hiddenBit
  le : minExponent ≤ p.exponent
  hidden : hiddenBit ≤ p.mantissa ∨ p.exponent = minExponent

theorem canonical_parts (x : Float) : (parts x).Canonical := by
  have hfraction := Nat.mod_lt x.toBits.toNat (y := hiddenBit) (by decide)
  have hhidden : hiddenBit = 0x10000000000000 := rfl
  constructor
  · simp only [parts]
    split <;> omega
  · simp only [parts, minExponent]
    split <;> omega
  · simp only [parts]
    split <;> omega

theorem bits_parts {x : Float} (h : x.isFinite = true) :
    min (((parts x).exponent - minExponent).toNat * hiddenBit + (parts x).mantissa) infinityBits +
      (if (parts x).negative then 0x8000000000000000 else 0) = x.toBits.toNat := by
  have hlt := x.toBits.toNat_lt
  have hbiased := biased_lt_of_isFinite h
  simp only [parts, decide_eq_true_eq]
  generalize x.toBits.toNat = bits at *
  have hhidden : hiddenBit = 0x10000000000000 := rfl
  by_cases hzero : bits / hiddenBit % 0x800 = 0
  · rw [if_pos hzero, if_pos hzero]
    simp only [infinityBits, minExponent, hhidden] at *
    split <;> omega
  · rw [if_neg hzero, if_neg hzero]
    simp only [infinityBits, minExponent, hhidden] at *
    split <;> omega

theorem ofMagnitude_parts {x : Float} (h : x.isFinite = true) :
    ofMagnitude (parts x).negative
      (((parts x).exponent - minExponent).toNat * hiddenBit + (parts x).mantissa) = x := by
  rw [ofMagnitude, bits_parts h, UInt64.ofNat_toNat, Float.ofBits_toBits]

/-! ## Integers -/

theorem roundDiv_mul (m : Nat) {d : Nat} (h : 0 < d) : roundDiv (m * d) d = m := by
  rw [roundDiv, Nat.mul_div_cancel m h, Nat.mul_mod_left]
  exact if_pos (by omega)

theorem scale_natCast (num den k : Nat) : scale num den (k : Int) = (num, den * Nat.pow 2 k) := by
  rw [scale, if_pos (Int.natCast_nonneg k), Int.toNat_natCast]

theorem scale_neg (num den : Nat) {k : Nat} (hk : 0 < k) :
    scale num den (-(k : Int)) = (num * Nat.pow 2 k, den) := by
  rw [scale, if_neg (by omega), Int.neg_neg, Int.toNat_natCast]

theorem floorLog2_one {n : Nat} (h : n ≠ 0) : floorLog2 n 1 = Nat.log2 n := by
  have hlog : ((Nat.log2 1 : Nat) : Int) = 0 := rfl
  simp only [floorLog2, hlog, Int.sub_zero, scale_natCast, Nat.one_mul]
  exact if_pos (Nat.log2_self_le h)

/-- How an integer comes from the mantissa and the exponent of a double: by zeros behind the
mantissa, or with zeros taken off. -/
theorem whole_cases {p : Parts} (hwhole : p.isWhole = true) :
    (∃ k : Nat, p.exponent = k ∧ p.whole = p.mantissa * Nat.pow 2 k) ∨
      ∃ k : Nat, 0 < k ∧ p.exponent = -(k : Int) ∧ p.mantissa = p.whole * Nat.pow 2 k := by
  by_cases he : 0 ≤ p.exponent
  · refine .inl ⟨p.exponent.toNat, by omega, ?_⟩
    rw [Parts.whole, if_pos he]
  · refine .inr ⟨(-p.exponent).toNat, by omega, by omega, ?_⟩
    have hmod : p.mantissa % Nat.pow 2 (-p.exponent).toNat = 0 := by
      simpa [Parts.isWhole, he] using hwhole
    rw [Parts.whole, if_neg he]
    exact (Nat.div_mul_cancel (Nat.dvd_of_mod_eq_zero hmod)).symm

theorem log2_whole {p : Parts} (hp : p.Canonical) (hwhole : p.isWhole = true) (hne : p.whole ≠ 0) :
    (Nat.log2 p.whole : Int) = 52 + p.exponent := by
  have hlt : p.mantissa < 2 ^ 53 := hp.lt
  have hhidden : 2 ^ 52 ≤ p.mantissa ∨ p.exponent = -1074 := hp.hidden
  obtain ⟨k, he, hk⟩ | ⟨k, hpos, he, hk⟩ := whole_cases hwhole
  · have hlog : p.whole.log2 = 52 + k := by
      rw [Nat.log2_eq_iff hne, hk, Nat.add_right_comm, Nat.pow_add 2 52, Nat.pow_add 2 53]
      have hpow := Nat.two_pow_pos k
      exact ⟨Nat.mul_le_mul_right _ (by omega), Nat.mul_lt_mul_of_pos_right hlt hpow⟩
    omega
  · rw [Nat.pow_eq] at hk
    -- fewer than 53 zeros come off a mantissa, so the exponent is not the least one
    have hk52 : k ≤ 52 := by
      by_contra hgt
      have hle : 2 ^ 53 ≤ p.whole * 2 ^ k :=
        (Nat.pow_le_pow_right (by decide) (by omega)).trans
          (Nat.le_mul_of_pos_left _ (Nat.pos_of_ne_zero hne))
      omega
    have hlog : p.whole.log2 = 52 - k := by
      have hpow := Nat.two_pow_pos k
      rw [Nat.log2_eq_iff hne, ← Nat.mul_le_mul_right_iff hpow, ← Nat.mul_lt_mul_right hpow, ← hk,
        ← Nat.pow_add, ← Nat.pow_add, (by omega : 52 - k + k = 52),
        (by omega : 52 - k + 1 + k = 53)]
      omega
    omega

theorem roundDiv_scale_whole {p : Parts} (hwhole : p.isWhole = true) :
    roundDiv (scale p.whole 1 p.exponent).1 (scale p.whole 1 p.exponent).2 = p.mantissa := by
  obtain ⟨k, he, hk⟩ | ⟨k, hpos, he, hk⟩ := whole_cases hwhole
  · rw [he, scale_natCast, hk, Nat.one_mul]
    exact roundDiv_mul _ (Nat.two_pow_pos k)
  · rw [he, scale_neg _ _ hpos, ← hk]
    simpa using roundDiv_mul p.mantissa Nat.one_pos

theorem ofRatio_whole {p : Parts} (hp : p.Canonical) (hwhole : p.isWhole = true)
    (hne : p.whole ≠ 0) : ofRatio p.negative p.whole 1 =
      ofMagnitude p.negative ((p.exponent - minExponent).toNat * hiddenBit + p.mantissa) := by
  have hexponent : max (floorLog2 p.whole 1 - 52) minExponent = p.exponent := by
    have hle := hp.le
    rw [floorLog2_one hne, log2_whole hp hwhole hne]
    omega
  rw [ofRatio, if_neg hne]
  simp only [hexponent, roundDiv_scale_whole hwhole]

theorem eq_zero_of_whole {x : Float} (hfinite : x.isFinite = true)
    (hwhole : (parts x).isWhole = true) (hzero : (parts x).whole = 0) : x = 0 ∨ x = -0 := by
  have hmantissa : (parts x).mantissa = 0 := by
    obtain ⟨k, -, hk⟩ | ⟨k, -, -, hk⟩ := whole_cases hwhole
    · exact (Nat.mul_eq_zero.1 (hk.symm.trans hzero)).resolve_right (Nat.two_pow_pos k).ne'
    · rw [hk, hzero, Nat.zero_mul]
  have hexponent : (parts x).exponent = minExponent :=
    (canonical_parts x).hidden.resolve_left (by rw [hmantissa]; decide)
  have hx := ofMagnitude_parts hfinite
  rw [hmantissa, hexponent, Int.sub_self] at hx
  rw [← hx]
  cases (parts x).negative
  · exact .inl rfl
  · exact .inr rfl

/-- **Integers** that are doubles are the doubles nearest to them; the sign of zero is lost. -/
theorem beq_ofInt {x : Float} {n : Int} (h : isIntegral x = true) (hn : integerPart? x = some n) :
    (ofInt n == x) = true := by
  obtain ⟨hfinite, hwhole⟩ := Bool.and_eq_true_iff.1 h
  rw [integerPart?, if_pos hfinite, Option.some.injEq] at hn
  by_cases hzero : (parts x).whole = 0
  · have hn0 : n = 0 := by rw [← hn, hzero]; exact ite_self _
    rw [hn0]
    obtain rfl | rfl := eq_zero_of_whole hfinite hwhole hzero <;> decide +kernel
  · have hx : ofInt n = x := by
      have hsign : decide (n < 0) = (parts x).negative := by
        rw [← hn]
        cases (parts x).negative
        · simp
        · simpa using Nat.pos_of_ne_zero hzero
      have habs : n.natAbs = (parts x).whole := by
        rw [← hn]
        split <;> omega
      rw [ofInt, hsign, habs, ofRatio_whole (canonical_parts x) hwhole hzero,
        ofMagnitude_parts hfinite]
    rw [hx]
    exact beq_self_of_isFinite hfinite

end Logbook.Binary64
