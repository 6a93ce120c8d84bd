import Logbook.Expr.Eval
import Logbook.Proofs.Expr.Slices
import Logbook.Proofs.Text.Matches

/-!
# Searching a text

Every method of texts counts characters: where a search finds a text, `startsWith` finds it from
that place on, and `slice` reads it there.

* `StartsAt`, `ReadAt`: what `startsWith` and `slice` say about a place;
* `startsAt_iff`, `readAt_of_occursAt`: they say where the text occurs;
* `Searched`: what the three searches have to say about a text;
* **`searched_callMethod`**: they say that.
-/

namespace Logbook

namespace Binary64

theorem toBits_ofNat_lt (n : Nat) : (ofNat n).toBits.toNat < 0x8000000000000000 := by
  have hinfinity : infinityBits = 2047 * 0x10000000000000 := rfl
  have hlt (bits : Nat) : (ofMagnitude false bits).toBits.toNat < 0x8000000000000000 := by
    rw [toBits_ofMagnitude, if_neg Bool.false_ne_true]
    omega
  rw [ofNat, ofRatio]
  split <;> exact hlt _

theorem ofNat_beq_neg_one (n : Nat) : (ofNat n == -ofNat 1) = false := by
  refine Bool.eq_false_iff.2 fun h => ?_
  have hbits : (-ofNat 1).toBits.toNat = 0xBFF0000000000000 := by decide +kernel
  obtain ⟨-, -, heq | ⟨-, hzero⟩ | ⟨-, hzero⟩⟩ := Float.beq_iff_ne_nan_and_eq.1 h
  · have hlt := toBits_ofNat_lt n
    rw [heq, hbits] at hlt
    omega
  · rw [hzero] at hbits
    exact absurd hbits (by decide +kernel)
  · rw [hzero] at hbits
    exact absurd hbits (by decide +kernel)

end Binary64

namespace Expr

variable {s t : String} {i : Nat}

/-- The number that a search gives where it finds nothing. -/
def minusOne : Value := applyUnary .neg (.ofNat 1)

theorem position_ne_minusOne (o : Option Nat) :
    applyBinary .ne (position o) minusOne = .bool o.isSome := by
  cases o with
  | none =>
    have hminus : (Binary64.ofInt (-1) == -Binary64.ofNat 1) = true := by decide +kernel
    change Value.bool (!(Binary64.ofInt (-1) == -Binary64.ofNat 1)) = _
    rw [hminus]
    rfl
  | some i =>
    change Value.bool (!(Binary64.ofNat i == -Binary64.ofNat 1)) = _
    rw [Binary64.ofNat_beq_neg_one]
    rfl

theorem absoluteIndex_ofNat {n : Nat} (h : n ≤ 2 ^ 53) (len : Nat) :
    absoluteIndex (Binary64.ofNat n) len = min n len := by
  have hnan : (Binary64.ofNat n).isNaN = false := Binary64.isNaN_ofRatio _ _ _
  simp only [absoluteIndex, wholeWithin, hnan, Binary64.integerPart?_ofNat h]
  simp only [Bool.false_eq_true, if_false]
  omega

theorem Sliceable.length_le (h : Sliceable (.str s)) : s.toList.length ≤ 2 ^ 53 := by
  cases h with
  | text h => exact h

/-! ## Places -/

/-- `s.startsWith(t, i)`, for a place `i` of `s`. -/
def StartsAt (s t : String) (i : Nat) : Prop :=
  i ≤ s.toList.length ∧
    callMethod (.str s) "startsWith" [.value (.str t), .value (.ofNat i)] = .ok (.bool true)

/-- `s.slice(i, i + t.length)` is `t`. -/
def ReadAt (s t : String) (i : Nat) : Prop :=
  ∃ n, memberOf (.str t) (.str "length") = .ok (.ofNat n) ∧
    callMethod (.str s) "slice" [.value (.ofNat i), .value (.ofNat (i + n))] = .ok (.str t)

theorem startsAt_iff (hs : s.toList.length ≤ 2 ^ 53) :
    StartsAt s t i ↔ Text.OccursAt t.toList s.toList i := by
  refine and_congr_right fun hi => ?_
  change Except.ok (Value.bool (TextMethod.startsAt t.toList s.toList (Binary64.ofNat i))) = _ ↔ _
  rw [TextMethod.startsAt, absoluteIndex_ofNat (hi.trans hs), Nat.min_eq_left hi, Except.ok.injEq,
    Value.bool.injEq, List.isPrefixOf_iff_prefix]

theorem readAt_of_occursAt (hs : s.toList.length ≤ 2 ^ 53)
    (h : Text.OccursAt t.toList s.toList i) : ReadAt s t i := by
  have hle := h.add_le
  refine ⟨t.toList.length, rfl, ?_⟩
  rw [callMethod_slice_text]
  change Except.ok (Value.ofChars (sliceOf s.toList
    (relativeIndex (Binary64.ofNat i) s.toList.length)
    (relativeIndex (Binary64.ofNat (i + t.toList.length)) s.toList.length))) = _
  rw [relativeIndex_ofNat (by omega), relativeIndex_ofNat (by omega), Nat.min_eq_left h.1,
    Nat.min_eq_left hle, sliceOf, h.take_drop, Value.ofChars, String.ofList_toList]

/-! ## Searches -/

/-- **What the searches have to say of `t` in `s`.** They agree on whether it is there. It is there
if it stands at some place, and then the first and the last such place are what the searches for a
place give, and it is read at both. The places of a text of more than `2 ^ 53` characters are not
all numbers. -/
structure Searched (s t : String) (found : Bool) (first last : Value) : Prop where
  includes : callMethod (.str s) "includes" [.value (.str t)] = .ok (.bool found)
  indexOf : callMethod (.str s) "indexOf" [.value (.str t)] = .ok first
  lastIndexOf : callMethod (.str s) "lastIndexOf" [.value (.str t)] = .ok last
  first_ne : applyBinary .ne first minusOne = .bool found
  last_ne : applyBinary .ne last minusOne = .bool found
  found_iff : Sliceable (.str s) → (found = true ↔ ∃ i, StartsAt s t i)
  first_place : Sliceable (.str s) → found = true →
    ∃ i, first = .ofNat i ∧ IsLeast {i | StartsAt s t i} i ∧ ReadAt s t i
  last_place : Sliceable (.str s) → found = true →
    ∃ i, last = .ofNat i ∧ IsGreatest {i | StartsAt s t i} i ∧ ReadAt s t i

theorem searched_callMethod (s t : String) : ∃ found first last, Searched s t found first last := by
  refine ⟨(Text.indexOf? t.toList s.toList).isSome, position (Text.indexOf? t.toList s.toList),
    position (Text.lastIndexOf? t.toList s.toList), ?_⟩
  have hlast := Text.isSome_lastIndexOf? t.toList s.toList
  exact
    { includes := rfl
      indexOf := rfl
      lastIndexOf := rfl
      first_ne := position_ne_minusOne _
      last_ne := hlast ▸ position_ne_minusOne _
      found_iff := fun h => by
        simp only [startsAt_iff h.length_le, Text.isSome_indexOf?_iff]
      first_place := fun h hfound => by
        obtain ⟨i, hi⟩ := Option.isSome_iff_exists.1 hfound
        have hleast := Text.indexOf?_isLeast hi
        refine ⟨i, by rw [hi, position], ?_, readAt_of_occursAt h.length_le hleast.1⟩
        simpa only [startsAt_iff h.length_le] using hleast
      last_place := fun h hfound => by
        obtain ⟨i, hi⟩ := Option.isSome_iff_exists.1 (hlast.trans hfound)
        have hgreatest := Text.lastIndexOf?_isGreatest hi
        refine ⟨i, by rw [hi, position], ?_, readAt_of_occursAt h.length_le hgreatest.1⟩
        simpa only [startsAt_iff h.length_le] using hgreatest }

theorem searched_callMethod_euros : Sliceable (.str "a€€€") ∧
    callMethod (.str "a€€€") "includes" [.value (.str "€€")] = .ok (.bool true) ∧
    ∃ i j, callMethod (.str "a€€€") "indexOf" [.value (.str "€€")] = .ok (.ofNat i) ∧
      callMethod (.str "a€€€") "lastIndexOf" [.value (.str "€€")] = .ok (.ofNat j) ∧
      IsLeast {k | StartsAt "a€€€" "€€" k} i ∧ ReadAt "a€€€" "€€" i ∧
      IsGreatest {k | StartsAt "a€€€" "€€" k} j ∧ ReadAt "a€€€" "€€" j := by
  have hshort : Sliceable (.str "a€€€") := .text (by decide)
  obtain ⟨found, first, last, h⟩ := searched_callMethod "a€€€" "€€"
  have hincludes : callMethod (.str "a€€€") "includes" [.value (.str "€€")] = .ok (.bool true) :=
    rfl
  obtain rfl : found = true := by
    have heq := h.includes.symm.trans hincludes
    injection heq with heq
    injection heq
  obtain ⟨i, rfl, hi⟩ := h.first_place hshort rfl
  obtain ⟨j, rfl, hj⟩ := h.last_place hshort rfl
  exact ⟨hshort, hincludes, i, j, h.indexOf, h.lastIndexOf, hi.1, hi.2, hj.1, hj.2⟩

end Expr

end Logbook
