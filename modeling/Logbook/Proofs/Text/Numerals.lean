import Logbook.Text.Digit

/-!
# Numbers in digits

* `Text.takeWhile_dropWhile_append`: where a run of characters ends;
* `Text.Writes`: digits that write a number, perhaps with zeros in front;
* **`Text.writes_decimal`**, **`Text.writes_padded`**: numbers are written by the digits printed for
  them;
* `Text.length_padded`: how long a padded number is;
* `Text.readBounded?_eq_some_iff`: digits are read as the number that they write;
* `Text.mem_signed`, `Text.signed_injective`: the characters of integers, which tell them apart;
* `Text.WritesOr`: digits that write a number, where there may be none.
-/

namespace Logbook.Text

theorem takeWhile_dropWhile_append {p : Char → Bool} {cs tail : List Char}
    (hcs : ∀ c ∈ cs, p c = true) (htail : ∀ c ∈ tail.head?, p c = false) :
    (cs ++ tail).takeWhile p = cs ∧ (cs ++ tail).dropWhile p = tail := by
  rw [List.takeWhile_append_of_pos hcs, List.dropWhile_append_of_pos hcs]
  cases tail with
  | nil => simp
  | cons c tail => simp [htail c rfl]

theorem takeWhile_dropWhile_ne {c : Char} {cs : List Char} (h : c ∉ cs) (tail : List Char) :
    (cs ++ c :: tail).takeWhile (· != c) = cs ∧ (cs ++ c :: tail).dropWhile (· != c) = c :: tail :=
  takeWhile_dropWhile_append (fun d hd => bne_iff_ne.2 fun heq => h (heq ▸ hd)) (by simp)

/-- ASCII digits that write a number in base ten. -/
structure Writes (ds : List Char) (n : Nat) : Prop where
  ne_nil : ds ≠ []
  isDigit : ∀ c ∈ ds, c.isDigit = true
  readNat : readNat ds = n

theorem writes_decimal (n : Nat) : Writes (decimal n) n where
  ne_nil := List.ne_nil_of_length_pos Nat.length_toDigits_pos
  isDigit _ hc := Nat.isDigit_of_mem_toDigits (by decide) (by decide) hc
  readNat := Nat.ofDigitChars_toDigits (by decide) (by decide)

theorem readNat_replicate_append (k : Nat) (ds : List Char) :
    readNat (List.replicate k '0' ++ ds) = readNat ds := by
  induction k with
  | zero => rfl
  | succ k ih => rw [List.replicate_succ, List.cons_append, ← ih]; rfl

theorem writes_padded (width n : Nat) : Writes (padded width n) n where
  ne_nil := List.append_ne_nil_of_right_ne_nil _ (writes_decimal n).ne_nil
  isDigit c hc := by
    rcases List.mem_append.mp hc with hc | hc
    · rw [List.eq_of_mem_replicate hc]
      rfl
    · exact (writes_decimal n).isDigit c hc
  readNat := by rw [padded, readNat_replicate_append, (writes_decimal n).readNat]

theorem length_padded {width n : Nat} (hwidth : 0 < width) (hn : n < Nat.pow 10 width) :
    (padded width n).length = width := by
  have hlen : (decimal n).length ≤ width := (Nat.length_toDigits_le_iff (by decide) hwidth).mpr hn
  rw [padded, List.length_append, List.length_replicate]
  omega

namespace Writes

variable {ds : List Char} {n : Nat}

theorem exists_cons (h : Writes ds n) : ∃ c cs, ds = c :: cs ∧ c.isDigit = true := by
  obtain ⟨c, cs, rfl⟩ := List.exists_cons_of_ne_nil h.ne_nil
  exact ⟨c, cs, rfl, h.isDigit c List.mem_cons_self⟩

theorem not_mem (h : Writes ds n) {c : Char} (hc : c.isDigit = false) : c ∉ ds := fun hmem =>
  absurd (h.isDigit c hmem) (by rw [hc]; exact Bool.false_ne_true)

/-- Digits stand above the space and all control characters. -/
theorem space_le (h : Writes ds n) : ∀ c ∈ ds, ' ' ≤ c := by
  intro c hc
  have hdigit := h.isDigit c hc
  rw [Char.isDigit, Bool.and_eq_true, decide_eq_true_eq] at hdigit
  exact UInt32.le_trans (by decide) hdigit.1

theorem isDecimal (h : Writes ds n) : ∀ c ∈ ds, isDecimal c = true :=
  fun c hc => isDecimal_of_isDigit (h.isDigit c hc)

theorem readBounded? (h : Writes ds n) {bound : Nat} (hn : n < bound) :
    readBounded? bound ds = some n := by
  obtain ⟨c, cs, rfl, hc⟩ := h.exists_cons
  have hplus : c ≠ '+' := by
    rintro rfl
    exact absurd hc (by decide)
  have hall : (c :: cs).all Char.isDigit = true := List.all_eq_true.mpr h.isDigit
  unfold Text.readBounded?
  split
  · next heq => exact absurd (List.cons.inj heq).1 hplus
  · simp only [List.isEmpty_cons, hall, Bool.not_true, Bool.or_self, Bool.false_eq_true, if_false,
      h.readNat, if_pos hn]

theorem unique (h : Writes ds n) {m : Nat} (hm : Writes ds m) : n = m :=
  h.readNat.symm.trans hm.readNat

end Writes

theorem readBounded?_eq_some_iff {bound n : Nat} {ds : List Char}
    (h : ∀ c ∈ ds, isDecimal c = true) :
    readBounded? bound ds = some n ↔ Writes ds n ∧ n < bound := by
  constructor
  · intro hread
    have hplus : isDecimal '+' = false := by decide
    unfold readBounded? at hread
    split at hread
    · exact absurd (h '+' List.mem_cons_self) (by simp [hplus])
    · simp only [Option.ite_none_left_eq_some, Option.ite_none_right_eq_some, Bool.or_eq_true,
        Bool.not_eq_true', not_or, Bool.not_eq_true, Bool.not_eq_false, List.isEmpty_eq_false_iff,
        List.all_eq_true, Option.some.injEq] at hread
      obtain ⟨⟨hne, hall⟩, hlt, rfl⟩ := hread
      exact ⟨⟨hne, hall, rfl⟩, hlt⟩
  · rintro ⟨hwrites, hlt⟩
    exact hwrites.readBounded? hlt

/-! ## Integers -/

theorem mem_signed {n : Int} {c : Char} (h : c ∈ signed n) : c = '-' ∨ c.isDigit = true := by
  unfold signed at h
  split at h
  · exact (List.mem_cons.1 h).imp_right ((writes_decimal _).isDigit c)
  · exact .inr ((writes_decimal _).isDigit c h)

theorem decimal_injective {m n : Nat} (h : decimal m = decimal n) : m = n :=
  (writes_decimal m).unique (h ▸ writes_decimal n)

/-- Two integers are written differently. -/
theorem signed_injective {m n : Int} (h : signed m = signed n) : m = n := by
  have hminus : ∀ (k : Nat) (cs : List Char), '-' :: cs ≠ decimal k := fun k cs heq =>
    (writes_decimal k).not_mem rfl (heq ▸ List.mem_cons_self)
  unfold signed at h
  split at h <;> split at h
  · have habs := decimal_injective (List.cons.inj h).2
    omega
  · exact absurd h (hminus _ _)
  · exact absurd h.symm (hminus _ _)
  · have habs := decimal_injective h
    omega

/-! ## Optional digits -/

/-- Digits that write a number, or a given number where there are none. -/
def WritesOr (default : Nat) : Option (List Char) → Nat → Prop
  | none, n => n = default
  | some ds, n => Writes ds n

end Logbook.Text
