import Logbook.Proofs.Number.Doubles

/-!
# Doubles that are built

A double is built from a sign and from the bits of its magnitude, which those of infinity bound.

* `toBits_ofMagnitude`: its bits are the given ones, so it is not NaN (`isNaN_ofMagnitude`);
* `parts_ofMagnitude`: it comes apart into the mantissa and the exponent that it was built from;
* **`integerPart?_ofNat`**: the natural numbers up to `2 ^ 53` are doubles;
* `nearestDecimal_zero`: the double nearest to an integer, also for one that is beyond all doubles.
-/

namespace Logbook

namespace Binary64

open Float.Model (UnpackedFloat)
open Float.Model.UnpackedFloat (unpackExponent unpackMantissa isNaNBits)

/-! ## Bits -/

theorem toNat_unpackMantissa (b : BitVec 64) :
    (@unpackMantissa .binary64 b).toNat = b.toNat % hiddenBit := by
  simp only [unpackMantissa, BitVec.toNat_cast, BitVec.extractLsb, BitVec.extractLsb'_toNat,
    Nat.shiftRight_zero]
  rfl

theorem toBits_ofBits {b : UInt64} (h : @isNaNBits .binary64 b.toBitVec = false) :
    (Float.ofBits b).toBits = b := by
  have hpack := @UnpackedFloat.pack_unpack .binary64 b.toBitVec (by decide)
  rw [h, if_neg Bool.false_ne_true] at hpack
  exact UInt64.toBitVec_inj.1 hpack

theorem toBits_ofMagnitude (negative : Bool) (bits : Nat) :
    (ofMagnitude negative bits).toBits.toNat =
      min bits infinityBits + if negative then 0x8000000000000000 else 0 := by
  have hinfinity : infinityBits = 2047 * 0x10000000000000 := rfl
  have hhidden : hiddenBit = 0x10000000000000 := rfl
  have hsign : (if negative then 0x8000000000000000 else 0) = 0 ∨
      (if negative then 0x8000000000000000 else 0) = 0x8000000000000000 := by
    cases negative <;> simp
  rw [ofMagnitude]
  generalize (if negative then 0x8000000000000000 else 0) = sign at *
  have hnat : (UInt64.ofNat (min bits infinityBits + sign)).toNat = min bits infinityBits + sign :=
    UInt64.toNat_ofNat_of_lt' (by rw [UInt64.size]; omega)
  rw [toBits_ofBits, hnat]
  -- the largest exponent belongs to infinity alone, whose mantissa is zero
  by_contra hnan
  rw [Bool.not_eq_false, isNaNBits, decide_eq_true_eq] at hnan
  obtain ⟨hexponent, hmantissa⟩ := hnan
  have he := congrArg BitVec.toNat hexponent
  rw [toNat_unpackExponent] at he
  change (UInt64.ofNat _).toNat / hiddenBit % 0x800 = 2047 at he
  refine hmantissa (BitVec.eq_of_toNat_eq ?_)
  rw [toNat_unpackMantissa]
  change (UInt64.ofNat _).toNat % hiddenBit = 0
  rw [hnat, hhidden] at he ⊢
  omega

theorem isNaN_eq_false_of_bits {x : Float}
    (h : x.toBits.toNat % 0x8000000000000000 ≤ infinityBits) : x.isNaN = false := by
  rw [Float.isNaN_eq_decide_eq_nan, decide_eq_false_iff_not]
  rintro rfl
  exact absurd h (by decide +kernel)

theorem isNaN_ofMagnitude (negative : Bool) (bits : Nat) :
    (ofMagnitude negative bits).isNaN = false := by
  have hinfinity : infinityBits = 2047 * 0x10000000000000 := rfl
  refine isNaN_eq_false_of_bits ?_
  rw [toBits_ofMagnitude]
  split <;> omega

theorem isNaN_ofRatio (negative : Bool) (num den : Nat) :
    (ofRatio negative num den).isNaN = false := by
  unfold ofRatio
  split <;> exact isNaN_ofMagnitude _ _

/-! ## Mantissa and exponent -/

theorem isFinite_of_biased_lt {x : Float} (h : x.toBits.toNat / hiddenBit % 0x800 < 2047) :
    x.isFinite = true := by
  have hexponent : @unpackExponent .binary64 x.toBits.toBitVec ≠ -1 := by
    intro heq
    have hnat := congrArg BitVec.toNat heq
    rw [toNat_unpackExponent] at hnat
    change x.toBits.toNat / hiddenBit % 0x800 = 2047 at hnat
    omega
  change (UnpackedFloat.unpack .binary64 x.toBits.toBitVec).isFinite = true
  rw [UnpackedFloat.unpack]
  split
  · next heq => exact absurd heq hexponent
  · split
    · split <;> rfl
    · rfl

/-- The bits of the magnitude of a mantissa with its exponent. -/
def Parts.bits (p : Parts) : Nat := (p.exponent - minExponent).toNat * hiddenBit + p.mantissa

/-- A double that is built from a mantissa and an exponent is finite and comes apart into these. -/
theorem parts_ofMagnitude {p : Parts} (hp : p.Canonical) (h : p.bits < infinityBits) :
    (ofMagnitude p.negative p.bits).isFinite = true ∧
      parts (ofMagnitude p.negative p.bits) = p := by
  obtain ⟨negative, mantissa, exponent⟩ := p
  obtain ⟨hlt, hle, hfirst⟩ := hp
  obtain ⟨k, rfl⟩ : ∃ k : Nat, exponent = k - 1074 := ⟨(exponent - minExponent).toNat, by
    simp only [minExponent] at hle ⊢
    omega⟩
  have hbits := toBits_ofMagnitude negative (Parts.bits ⟨negative, mantissa, k - 1074⟩)
  have hsum : Parts.bits ⟨negative, mantissa, k - 1074⟩ = k * 0x10000000000000 + mantissa := by
    simp only [Parts.bits, minExponent, hiddenBit]
    omega
  have hhidden : hiddenBit = 0x10000000000000 := rfl
  simp only [minExponent, infinityBits, hhidden, hsum] at h hlt hfirst hbits ⊢
  rw [Nat.min_eq_left h.le] at hbits
  generalize ofMagnitude negative (k * 0x10000000000000 + mantissa) = x at hbits ⊢
  -- the first bit of the mantissa, where there is one, makes the biased exponent one more
  have hfraction : x.toBits.toNat % 0x10000000000000 = mantissa % 0x10000000000000 := by
    rw [hbits]
    split <;> omega
  have hbiased : x.toBits.toNat / 0x10000000000000 % 0x800 = k + mantissa / 0x10000000000000 := by
    rw [hbits]
    split <;> omega
  have hsign : decide (0x8000000000000000 ≤ x.toBits.toNat) = negative := by
    rw [hbits]
    cases negative
    · exact decide_eq_false (by rw [if_neg Bool.false_ne_true]; omega)
    · exact decide_eq_true (by rw [if_pos rfl]; omega)
  refine ⟨isFinite_of_biased_lt (by rw [hhidden]; omega), ?_⟩
  simp only [parts, hhidden, hfraction, hbiased, hsign, minExponent, Parts.mk.injEq, true_and]
  constructor <;> split <;> omega

theorem exists_canonical {n : Nat} (hn : n ≠ 0) (h : n ≤ 2 ^ 53) :
    ∃ p : Parts, p.Canonical ∧ p.negative = false ∧ p.isWhole = true ∧ p.whole = n ∧
      p.bits < infinityBits := by
  obtain rfl | hlt := h.eq_or_lt
  · refine ⟨⟨false, 2 ^ 52, 1⟩, ⟨by decide, by decide, by decide⟩, ?_⟩
    decide
  -- zeros behind the number make it as long as a mantissa
  have hlog : n.log2 ≤ 52 := Nat.lt_succ_iff.1 ((Nat.log2_lt hn).2 hlt)
  obtain ⟨k, hk⟩ : ∃ k, n.log2 + k = 52 := ⟨52 - n.log2, by omega⟩
  have hpow := Nat.two_pow_pos k
  have hfirst : 2 ^ 52 ≤ n * 2 ^ k := by
    rw [← hk, Nat.pow_add]
    exact Nat.mul_le_mul_right _ (Nat.log2_self_le hn)
  have hlast : n * 2 ^ k < 2 ^ 53 := by
    rw [(by omega : 53 = n.log2 + 1 + k), Nat.pow_add 2 (n.log2 + 1)]
    exact Nat.mul_lt_mul_of_pos_right Nat.lt_log2_self hpow
  refine ⟨⟨false, n * 2 ^ k, -(k : Int)⟩, ⟨hlast, ?_, .inl hfirst⟩, rfl, ?_, ?_, ?_⟩
  · simp only [minExponent]
    omega
  · simp only [Parts.isWhole, Int.neg_neg, Int.toNat_natCast, Nat.pow_eq, Nat.mul_mod_left]
    simp
  · by_cases hzero : k = 0
    · simp [Parts.whole, hzero]
    · simp only [Parts.whole, Int.neg_neg, Int.toNat_natCast]
      rw [if_neg (by omega)]
      exact Nat.mul_div_cancel n hpow
  · have hhidden : hiddenBit = 0x10000000000000 := rfl
    simp only [Parts.bits, minExponent, infinityBits, hhidden]
    omega

/-- **The natural numbers up to `2 ^ 53` are doubles.** -/
theorem integerPart?_ofNat {n : Nat} (h : n ≤ 2 ^ 53) :
    integerPart? (ofNat n) = some (n : Int) := by
  by_cases hn : n = 0
  · subst hn
    decide +kernel
  obtain ⟨p, hp, hnegative, hwhole, rfl, hbits⟩ := exists_canonical hn h
  have hbuilt : ofNat p.whole = ofMagnitude p.negative p.bits := by
    rw [ofNat, ← hnegative, ofRatio_whole hp hwhole hn, Parts.bits]
  obtain ⟨hfinite, hparts⟩ := parts_ofMagnitude hp hbits
  rw [hbuilt, integerPart?, if_pos hfinite, hparts]
  simp [hnegative]

/-! ## Integers beyond all doubles -/

theorem ofMagnitude_of_le {negative : Bool} {bits : Nat} (h : infinityBits ≤ bits) :
    ofMagnitude negative bits = ofMagnitude negative infinityBits := by
  rw [ofMagnitude, ofMagnitude, Nat.min_eq_right h, Nat.min_self]

theorem ofNat_of_le_log2 {n : Nat} (h : 1025 ≤ n.log2) :
    ofNat n = ofMagnitude false infinityBits := by
  have hn : n ≠ 0 := by
    rintro rfl
    exact absurd h (by decide)
  rw [ofNat, ofRatio, if_neg hn]
  simp only [floorLog2_one hn]
  refine ofMagnitude_of_le (Nat.le_add_right_of_le (Nat.mul_le_mul_right _ ?_))
  simp only [minExponent]
  omega

end Binary64

/-- An integer with many digits has many bits. -/
theorem mul_le_log2_of_length {n a b k : Nat} (hb : 0 < b * k) (h : 2 ^ a ≤ 10 ^ b)
    (hlength : b * k < (Text.decimal n).length) : a * k ≤ n.log2 := by
  have hle : (10 ^ b) ^ k ≤ n := by
    rw [← Nat.pow_mul]
    exact Nat.not_lt.1 fun hlt =>
      Nat.not_le.2 hlength ((Nat.length_toDigits_le_iff (by decide) hb).2 hlt)
  have hn : n ≠ 0 := (Nat.lt_of_lt_of_le (Nat.pow_pos (Nat.pow_pos (by decide))) hle).ne'
  rw [Nat.le_log2 hn, Nat.pow_mul]
  exact (Nat.pow_le_pow_left h k).trans hle

/-- **The double nearest to an integer** that is written without an exponent. -/
theorem nearestDecimal_zero (n : Nat) : nearestDecimal false n 0 = Binary64.ofNat n := by
  by_cases hn : n = 0
  · subst hn
    rfl
  simp only [nearestDecimal, hn, decide_false, Bool.false_or, decide_eq_true_eq]
  rw [if_neg (by omega)]
  split
  · next hlong =>
    have hlog : 1025 ≤ n.log2 :=
      mul_le_log2_of_length (a := 205) (b := 62) (k := 5) (by decide) (by norm_num) (by omega)
    exact (Binary64.ofNat_of_le_log2 hlog).symm
  · rw [if_pos (Int.le_refl 0), Int.toNat_zero, Nat.pow_eq, Nat.pow_zero, Nat.mul_one,
      Binary64.ofNat]

/-! ## Literals -/

theorem isNaN_nearestDecimal (negative : Bool) (n : Nat) (e : Int) :
    (nearestDecimal negative n e).isNaN = false := by
  simp only [nearestDecimal]
  split
  · exact Binary64.isNaN_ofMagnitude _ _
  split
  · exact Binary64.isNaN_ofMagnitude _ _
  split <;> exact Binary64.isNaN_ofRatio _ _ _

theorem Literal.isNaN_value (l : Literal) : l.value.isNaN = false := isNaN_nearestDecimal _ _ _

end Logbook
