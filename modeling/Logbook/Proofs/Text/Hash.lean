import Mathlib.Data.Int.ModEq
import Mathlib.Algebra.Order.Group.Unbundled.Abs
import Mathlib.Algebra.Order.Ring.Abs
import Mathlib.Algebra.Order.BigOperators.Group.List
import Mathlib.Data.List.Induction
import Mathlib.Tactic.Ring
import Mathlib.Tactic.NormNum
import Mathlib.Tactic.Set
import Logbook.Text.Hash

/-!
# The sums of the hash

The hash keeps a signed sum of six shifted words, of which the next round uses the low word only.

* `shiftedWords`, `sumOver`: the words of a round, and the sum after some units;
* `addChecked?`, `sumChecked?`: the same in 64 bits, where an addition may overflow;
* `wordHash`: the 32-bit FNV-1a hash, which multiplies in each round;
* `hashRound_modEq`, `abs_hashRound_le`: what one round does, and how large its sum may be;
* **`hashes_fnv1a`**: no addition overflows, and the sum is the 32-bit hash up to its high bits.
-/

namespace Logbook.Text

/-- The shifted words of a round. -/
def shiftedWords (sum : Int) (unit : UInt16) : List Int :=
  hashShifts.map fun s => ((Int32.ofInt sum ^^^ Int32.ofNat unit.toNat) <<< s).toInt

/-- The sum after some units. -/
def sumOver (us : List UInt16) : Int := us.foldl hashRound hashBasis

/-- An addition in 64 bits; none where it overflows. -/
def addChecked? (m n : Int) : Option Int :=
  if -2 ^ 63 ≤ m + n ∧ m + n < 2 ^ 63 then some (m + n) else none

/-- A round that adds its words one after the other in 64 bits. -/
def roundChecked? (sum : Int) (unit : UInt16) : Option Int :=
  (shiftedWords sum unit).foldlM addChecked? 0

/-- The sum after some units, with every addition in 64 bits. -/
def sumChecked? (us : List UInt16) : Option Int := us.foldlM roundChecked? hashBasis

/-- **The 32-bit FNV-1a hash** of some units: each goes into the word, which is then multiplied. -/
def wordHash (us : List UInt16) : UInt32 :=
  us.foldl (fun h u => (h ^^^ u.toUInt32) * 16777619) 2166136261

variable {sum : Int} {unit : UInt16} {us : List UInt16}

theorem hashRound_eq_sum (sum : Int) (unit : UInt16) :
    hashRound sum unit = (shiftedWords sum unit).sum := by
  rw [hashRound, shiftedWords, List.sum_eq_foldr, List.foldr_map]

theorem sumOver_concat (us : List UInt16) (u : UInt16) :
    sumOver (us ++ [u]) = hashRound (sumOver us) u := by
  rw [sumOver, List.foldl_append]
  rfl

/-! ## The size of a sum -/

/-- Checked additions of words give their sum, as long as there are few of them. -/
theorem foldlM_addChecked? {ns : List Int} (h : ∀ n ∈ ns, |n| ≤ 2 ^ 31) {m : Int} {k : Nat}
    (hm : |m| ≤ k * 2 ^ 31) (hk : k + ns.length < 2 ^ 32) :
    ns.foldlM addChecked? m = some (m + ns.sum) := by
  induction ns generalizing m k with
  | nil => simp
  | cons n ns ih =>
    obtain ⟨hn, hns⟩ := List.forall_mem_cons.1 h
    rw [List.length_cons] at hk
    have hsum : |m + n| ≤ ((k + 1 : Nat) : Int) * 2 ^ 31 := by
      have hadd := abs_add_le m n
      push_cast
      omega
    have hfits : -2 ^ 63 ≤ m + n ∧ m + n < 2 ^ 63 := by
      obtain ⟨hlow, hhigh⟩ := abs_le.1 hsum
      omega
    rw [List.foldlM_cons, addChecked?, if_pos hfits, Option.bind_eq_bind, Option.bind_some,
      ih hns hsum (by omega), List.sum_cons, Int.add_assoc]

theorem abs_toInt_le (w : Int32) : |w.toInt| ≤ 2 ^ 31 :=
  abs_le.2 ⟨w.le_toInt, w.toInt_lt.le⟩

theorem abs_shiftedWords_le {n : Int} (h : n ∈ shiftedWords sum unit) : |n| ≤ 2 ^ 31 := by
  obtain ⟨s, -, rfl⟩ := List.mem_map.1 h
  exact abs_toInt_le _

theorem abs_hashRound_le (sum : Int) (unit : UInt16) : |hashRound sum unit| ≤ 6 * 2 ^ 31 := by
  have hlength : (shiftedWords sum unit).length = 6 := List.length_map _
  have hlow := List.card_nsmul_le_sum (shiftedWords sum unit) (-2 ^ 31) fun _ h =>
    (abs_le.1 (abs_shiftedWords_le h)).1
  have hhigh := List.sum_le_card_nsmul (shiftedWords sum unit) (2 ^ 31) fun _ h =>
    (abs_le.1 (abs_shiftedWords_le h)).2
  rw [hlength] at hlow hhigh
  rw [hashRound_eq_sum]
  exact abs_le.2 ⟨hlow, hhigh⟩

theorem roundChecked?_eq (sum : Int) (unit : UInt16) :
    roundChecked? sum unit = some (hashRound sum unit) := by
  have hzero : |(0 : Int)| ≤ (0 : Nat) * 2 ^ 31 := by simp
  have hlength : (shiftedWords sum unit).length = 6 := List.length_map _
  rw [roundChecked?, foldlM_addChecked? (fun _ => abs_shiftedWords_le) hzero (by omega),
    Int.zero_add, hashRound_eq_sum]

theorem sumChecked?_eq (us : List UInt16) : sumChecked? us = some (sumOver us) := by
  have hround : roundChecked? = fun sum unit => some (hashRound sum unit) :=
    funext fun sum => funext fun unit => roundChecked?_eq sum unit
  rw [sumChecked?, sumOver, hround]
  exact List.foldlM_pure

/-! ## The sum and the word -/

theorem toInt_modEq (w : Int32) : w.toInt ≡ w.toBitVec.toNat [ZMOD 2 ^ 32] := by
  rw [← Int32.toInt_toBitVec, BitVec.toInt_eq_toNat_bmod]
  exact Int.bmod_emod

/-- A word shifted to the left is multiplied by a power of two, up to the high bits. -/
theorem toInt_shiftLeft_modEq (w s : Int32) {k : Nat} (hk : (s.toBitVec.smod 32).toNat = k) :
    (w <<< s).toInt ≡ w.toInt * 2 ^ k [ZMOD 2 ^ 32] := by
  have hshift : (w <<< s).toInt ≡ w.toBitVec.toNat * 2 ^ k [ZMOD 2 ^ 32] := by
    rw [← Int32.toInt_toBitVec, Int32.toBitVec_shiftLeft, BitVec.shiftLeft_eq', hk,
      BitVec.toInt_shiftLeft, Nat.shiftLeft_eq]
    push_cast
    exact Int.bmod_emod
  exact hshift.trans ((toInt_modEq w).symm.mul_right _)

/-- **A round multiplies the low word**, up to the high bits. -/
theorem hashRound_modEq (sum : Int) (unit : UInt16) :
    hashRound sum unit ≡
      (Int32.ofInt sum ^^^ Int32.ofNat unit.toNat).toInt * 16777619 [ZMOD 2 ^ 32] := by
  set w := Int32.ofInt sum ^^^ Int32.ofNat unit.toNat
  have hterms : hashRound sum unit ≡ w.toInt * 2 ^ 0 + (w.toInt * 2 ^ 1 + (w.toInt * 2 ^ 4 +
      (w.toInt * 2 ^ 7 + (w.toInt * 2 ^ 8 + (w.toInt * 2 ^ 24 + 0))))) [ZMOD 2 ^ 32] :=
    (toInt_shiftLeft_modEq w 0 rfl).add <| (toInt_shiftLeft_modEq w 1 rfl).add <|
      (toInt_shiftLeft_modEq w 4 rfl).add <| (toInt_shiftLeft_modEq w 7 rfl).add <|
      (toInt_shiftLeft_modEq w 8 rfl).add <| (toInt_shiftLeft_modEq w 24 rfl).add (.refl 0)
  have hmultiplier : w.toInt * 2 ^ 0 + (w.toInt * 2 ^ 1 + (w.toInt * 2 ^ 4 + (w.toInt * 2 ^ 7 +
      (w.toInt * 2 ^ 8 + (w.toInt * 2 ^ 24 + 0))))) = w.toInt * 16777619 := by ring
  rwa [hmultiplier] at hterms

theorem toBitVec_ofInt_of_modEq {h : UInt32} (hsum : sum ≡ h.toNat [ZMOD 2 ^ 32]) :
    (Int32.ofInt sum).toBitVec = h.toBitVec := by
  refine BitVec.eq_of_toNat_eq ?_
  have hlt := h.toNat_lt
  have hmod : sum % 2 ^ 32 = h.toNat := by
    rw [hsum]
    exact Int.emod_eq_of_lt (by omega) (by omega)
  rw [Int32.toBitVec_ofInt, BitVec.toNat_ofInt]
  norm_num at hmod ⊢
  omega

theorem hashRound_modEq_of_modEq {h : UInt32} (hsum : sum ≡ h.toNat [ZMOD 2 ^ 32]) (unit : UInt16) :
    hashRound sum unit ≡ ((h ^^^ unit.toUInt32) * 16777619).toNat [ZMOD 2 ^ 32] := by
  have hword : (Int32.ofInt sum ^^^ Int32.ofNat unit.toNat).toBitVec.toNat =
      (h ^^^ unit.toUInt32).toNat := by
    have hunit : (Int32.ofNat unit.toNat).toBitVec = unit.toUInt32.toBitVec :=
      BitVec.ofNat_toNat 32 unit.toBitVec
    rw [Int32.toBitVec_xor, toBitVec_ofInt_of_modEq hsum, hunit]
    rfl
  calc hashRound sum unit
      ≡ (Int32.ofInt sum ^^^ Int32.ofNat unit.toNat).toInt * 16777619 [ZMOD 2 ^ 32] :=
        hashRound_modEq sum unit
    _ ≡ (h ^^^ unit.toUInt32).toNat * 16777619 [ZMOD 2 ^ 32] :=
        hword ▸ (toInt_modEq _).mul_right _
    _ ≡ ((h ^^^ unit.toUInt32) * 16777619).toNat [ZMOD 2 ^ 32] := by
        rw [UInt32.toNat_mul]
        push_cast
        exact (Int.mod_modEq _ _).symm

theorem sumOver_modEq (us : List UInt16) : sumOver us ≡ (wordHash us).toNat [ZMOD 2 ^ 32] := by
  induction us using List.reverseRecOn with
  | nil => rfl
  | append_singleton us u ih =>
    have hword : wordHash (us ++ [u]) = (wordHash us ^^^ u.toUInt32) * 16777619 := by
      rw [wordHash, List.foldl_append]
      rfl
    rw [sumOver_concat, hword]
    exact hashRound_modEq_of_modEq ih u

/-! ## The hash -/

/-- **The laws of the sum** after some units. -/
structure SumLaws (us : List UInt16) : Prop where
  /-- No addition on the way overflows 64 bits. -/
  checked : sumChecked? us = some (sumOver us)
  bounded : us ≠ [] → |sumOver us| ≤ 6 * 2 ^ 31
  congruent : sumOver us ≡ (wordHash us).toNat [ZMOD 2 ^ 32]

/-- **The hash is the magnitude of a sum** that no text makes overflow and that is the 32-bit FNV-1a
hash up to its high bits. -/
theorem hashes_fnv1a :
    (∀ us, SumLaws us) ∧ ∀ cs, (fnv1a cs : Int) = |sumOver (units cs)| := by
  refine ⟨fun us => ⟨sumChecked?_eq us, fun hne => ?_, sumOver_modEq us⟩, fun cs => ?_⟩
  · rcases List.eq_nil_or_concat us with rfl | ⟨before, u, rfl⟩
    · exact absurd rfl hne
    · rw [List.concat_eq_append, sumOver_concat]
      exact abs_hashRound_le _ _
  · exact Int.natCast_natAbs _

/-- The published hash of the letter `a`. -/
example : wordHash (units ['a']) = 0xE40C292C := by decide

end Logbook.Text
