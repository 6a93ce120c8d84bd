import Logbook.Text.Blank

/-!
# Blanks and other characters

* `ne_of_isBlank`: blanks differ from other characters;
* `isAlpha_iff`, `isDigit_iff`: letters and digits by their numbers;
* **`not_isAlphanum_of_isBlank`**: no blank is one of them;
* `trim_eq_self`: a text without blanks has none around it.
-/

namespace Logbook.Text

theorem ne_of_isBlank {c d : Char} (h : isBlank c = true) (hd : isBlank d = false) : c ≠ d := by
  rintro rfl
  simp [h] at hd

theorem isAlpha_iff (c : Char) : c.isAlpha = true ↔
    (65 ≤ c.toNat ∧ c.toNat ≤ 90) ∨ (97 ≤ c.toNat ∧ c.toNat ≤ 122) := by
  show (decide (c.val ≥ 'A'.val ∧ c.val ≤ 'Z'.val) ||
    (decide (c.val ≥ 'a'.val) && decide (c.val ≤ 'z'.val))) = true ↔ _
  rw [Bool.or_eq_true, Bool.and_eq_true, decide_eq_true_eq, decide_eq_true_eq, decide_eq_true_eq]
  exact Iff.rfl

theorem isDigit_iff (c : Char) : c.isDigit = true ↔ 48 ≤ c.toNat ∧ c.toNat ≤ 57 := by
  show (decide (c.val ≥ '0'.val) && decide (c.val ≤ '9'.val)) = true ↔ _
  rw [Bool.and_eq_true, decide_eq_true_eq, decide_eq_true_eq]
  exact Iff.rfl

theorem toNat_of_isBlank {c : Char} (h : isBlank c = true) : c.toNat ≤ 0x20 ∨ 0x85 ≤ c.toNat := by
  simp [isBlank] at h
  omega

/-- **No blank is a letter or a digit.** -/
theorem not_isAlphanum_of_isBlank {c : Char} (h : isBlank c = true) : c.isAlphanum = false := by
  have hn := toNat_of_isBlank h
  have halpha : c.isAlpha = false := Bool.eq_false_iff.2 fun hc => by
    have hrange := (isAlpha_iff c).1 hc
    omega
  have hdigit : c.isDigit = false := Bool.eq_false_iff.2 fun hc => by
    have hrange := (isDigit_iff c).1 hc
    omega
  rw [Char.isAlphanum, halpha, hdigit, Bool.or_self]

theorem not_isDigit_of_isBlank {c : Char} (h : isBlank c = true) : c.isDigit = false :=
  (Bool.or_eq_false_iff.1 (not_isAlphanum_of_isBlank h)).2

theorem not_isBlank_of_isDigit {c : Char} (h : c.isDigit = true) : isBlank c = false := by
  cases hb : isBlank c with
  | false => rfl
  | true =>
    rw [not_isDigit_of_isBlank hb] at h
    cases h

theorem trim_eq_self {cs : List Char} (h : ∀ c ∈ cs, isBlank c = false) : trim cs = cs := by
  have hdrop : ∀ {ds : List Char}, (∀ c ∈ ds, isBlank c = false) → ds.dropWhile isBlank = ds := by
    intro ds hds
    cases ds with
    | nil => rfl
    | cons c ds => exact List.dropWhile_cons_of_neg (by simp [hds c List.mem_cons_self])
  rw [trim, trimEnd, dropTrailing, trimStart, hdrop h,
    hdrop fun c hc => h c (List.mem_reverse.1 hc), List.reverse_reverse]

end Logbook.Text
