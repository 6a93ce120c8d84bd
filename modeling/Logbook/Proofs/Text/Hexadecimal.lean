import Mathlib.Data.Bool.AllAny
import Logbook.Proofs.Text.Blanks
import Logbook.Text.Digit

/-!
# Numbers in hexadecimal digits

* `hexDigits`, `isHex_iff`: the hexadecimal digits;
* `WritesHex`: hexadecimal digits that write a number;
* `NumeralHex`: such digits, perhaps with a plus sign in front;
* **`readHex?_eq_some_iff`**: a number below a bound is read from these.
-/

namespace Logbook.Text

/-- Hexadecimal digits that write a number in base sixteen. -/
structure WritesHex (ds : List Char) (n : Nat) : Prop where
  ne_nil : ds ≠ []
  isHex : ∀ c ∈ ds, isHex c = true
  readHexDigits : readHexDigits ds = n

/-- Hexadecimal digits, perhaps with a plus sign in front of them. -/
def NumeralHex (cs : List Char) (n : Nat) : Prop :=
  WritesHex cs n ∨ ∃ ds, cs = '+' :: ds ∧ WritesHex ds n

/-- The hexadecimal digits. -/
def hexDigits : List Char := "0123456789abcdefABCDEF".toList

theorem toNat_lt_of_isHex {c : Char} (h : isHex c = true) : c.toNat < 103 := by
  unfold isHex hexVal? at h
  split at h
  · next hc =>
    obtain ⟨-, hhigh⟩ : 48 ≤ c.toNat ∧ c.toNat ≤ 57 := hc
    omega
  split at h
  · next hc =>
    obtain ⟨-, hhigh⟩ : 97 ≤ c.toNat ∧ c.toNat ≤ 102 := hc
    omega
  split at h
  · next hc =>
    obtain ⟨-, hhigh⟩ : 65 ≤ c.toNat ∧ c.toNat ≤ 70 := hc
    omega
  · cases h

theorem isHex_iff {c : Char} : isHex c = true ↔ c ∈ hexDigits := by
  constructor
  · intro h
    have hsmall : ∀ n < 103, isHex (Char.ofNat n) = true → Char.ofNat n ∈ hexDigits := by decide
    have hc := hsmall c.toNat (toNat_lt_of_isHex h)
    rw [Char.ofNat_toNat] at hc
    exact hc h
  · have hall : ∀ d ∈ hexDigits, isHex d = true := List.all_eq_true.1 rfl
    exact hall c

theorem not_isBlank_of_isHex {c : Char} (h : isHex c = true) : isBlank c = false := by
  have hall : ∀ d ∈ hexDigits, isBlank d = false := List.all_iff_forall_prop.1 rfl
  exact hall c (isHex_iff.1 h)

theorem WritesHex.head?_ne_plus {ds : List Char} {n : Nat} (h : WritesHex ds n) :
    ds.head? ≠ some '+' := fun hplus =>
  absurd (h.isHex '+' (List.mem_of_head? hplus)) (by decide)

theorem NumeralHex.writesHex_iff {cs : List Char} {n : Nat} (h : NumeralHex cs n) :
    WritesHex cs n ↔ cs.head? ≠ some '+' := by
  obtain h | ⟨ds, rfl, -⟩ := h
  · exact iff_of_true h h.head?_ne_plus
  · exact iff_of_false (fun h => h.head?_ne_plus rfl) (fun h => h rfl)

theorem readDigits_eq_some_iff {bound n : Nat} {ds : List Char} :
    (if ds.isEmpty || !ds.all Text.isHex then none
      else if readHexDigits ds < bound then some (readHexDigits ds) else none) = some n ↔
      WritesHex ds n ∧ n < bound := by
  simp only [Option.ite_none_left_eq_some, Option.ite_none_right_eq_some, Bool.or_eq_true,
    Bool.not_eq_true', not_or, Bool.not_eq_true, Bool.not_eq_false, List.isEmpty_eq_false_iff,
    List.all_eq_true, Option.some.injEq]
  constructor
  · rintro ⟨⟨hne, hall⟩, hlt, rfl⟩
    exact ⟨⟨hne, hall, rfl⟩, hlt⟩
  · rintro ⟨⟨hne, hall, rfl⟩, hlt⟩
    exact ⟨⟨hne, hall⟩, hlt, rfl⟩

/-- **What is read as a number below the bound**: its digits, perhaps behind a plus sign. -/
theorem readHex?_eq_some_iff {bound n : Nat} {cs : List Char} :
    readHex? bound cs = some n ↔ NumeralHex cs n ∧ n < bound := by
  unfold readHex?
  split
  · next ds =>
    rw [readDigits_eq_some_iff]
    constructor
    · exact fun h => ⟨.inr ⟨ds, rfl, h.1⟩, h.2⟩
    · rintro ⟨h | ⟨es, heq, h⟩, hlt⟩
      · exact absurd rfl h.head?_ne_plus
      · obtain ⟨-, rfl⟩ := List.cons.inj heq
        exact ⟨h, hlt⟩
  · next hplus =>
    rw [readDigits_eq_some_iff]
    constructor
    · exact fun h => ⟨.inl h.1, h.2⟩
    · rintro ⟨h | ⟨es, rfl, -⟩, hlt⟩
      · exact ⟨h, hlt⟩
      · exact absurd rfl (hplus es)

end Logbook.Text
