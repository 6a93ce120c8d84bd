import Logbook.Json.Numeral
import Logbook.Proofs.Text.Numerals

/-!
# Numerals in JSON text

The numbers of JSON as they are written, with the value that each has.

* `Digits`, `Exponent`, `Tail`, **`Numeral`**: the texts that are numerals;
* `isNumeralChar`, `EndsNumeral`: the characters of numerals, and what may stand behind one;
* **`readNumeral?_append`**, **`exists_numeral`**: reading at the start of a text finds a numeral,
  and each numeral is found;
* `numeral_signed`: integers are numerals of themselves.
-/

namespace Logbook.Json

/-! ## Grammar -/

/-- At least one digit. -/
def Digits (ds : List Char) : Prop := ds ≠ [] ∧ ∀ c ∈ ds, c.isDigit = true

/-- The text behind the letter of an exponent, its sign and its digits. -/
inductive Exponent : List Char → Bool → List Char → Prop where
  | unsigned {ds : List Char} (h : Digits ds) : Exponent ds false ds
  | plus {ds : List Char} (h : Digits ds) : Exponent ('+' :: ds) false ds
  | minus {ds : List Char} (h : Digits ds) : Exponent ('-' :: ds) true ds

/-- The letter of an exponent. -/
def IsExponentLetter (e : Char) : Prop := e = 'e' ∨ e = 'E'

/-- What follows the leading digits of a numeral, and the number that they make together. -/
inductive Tail (negative : Bool) (s : Significand) : List Char → Json → Prop where
  | whole {v : Json} (h : ofWhole? negative s = some v) : Tail negative s [] v
  | fraction {ds : List Char} {x : Float} (hds : Digits ds)
    (h : (s.takeFraction ds).toFloat? negative = some x) :
    Tail negative s ('.' :: ds) (.double x)
  | exponent {e : Char} {cs ds : List Char} {down : Bool} {x : Float} (he : IsExponentLetter e)
    (hds : Exponent cs down ds) (h : withExponent? negative s down ds = some x) :
    Tail negative s (e :: cs) (.double x)
  | fractionExponent {e : Char} {fs cs ds : List Char} {down : Bool} {x : Float} (hfs : Digits fs)
    (he : IsExponentLetter e) (hds : Exponent cs down ds)
    (h : withExponent? negative (s.takeFraction fs) down ds = some x) :
    Tail negative s ('.' :: (fs ++ e :: cs)) (.double x)

/-- The sign in front of a numeral. -/
def minusSign (negative : Bool) : List Char := if negative then ['-'] else []

/-- **The numerals and their values.** No zero stands in front of another digit. -/
inductive Numeral : List Char → Json → Prop where
  | intro {negative : Bool} {ds t : List Char} {v : Json} (hds : Digits ds)
    (hzero : ds = ['0'] ∨ ∀ cs, ds ≠ '0' :: cs)
    (ht : Tail negative (Significand.takeWhole ⟨0, 0⟩ ds) t v) :
    Numeral (minusSign negative ++ (ds ++ t)) v

/-! ## Characters -/

/-- A character of a numeral. -/
def isNumeralChar (c : Char) : Bool := c.isDigit || ['-', '+', '.', 'e', 'E'].contains c

theorem isNumeralChar_of_isDigit {c : Char} (h : c.isDigit = true) : isNumeralChar c = true := by
  simp [isNumeralChar, h]

theorem isNumeralChar_of_letter {e : Char} (h : IsExponentLetter e) : isNumeralChar e = true := by
  rcases h with rfl | rfl <;> decide

theorem Digits.isNumeralChar {ds : List Char} (h : Digits ds) :
    ∀ c ∈ ds, isNumeralChar c = true :=
  fun c hc => isNumeralChar_of_isDigit (h.2 c hc)

theorem Exponent.isNumeralChar {cs ds : List Char} {down : Bool} (h : Exponent cs down ds) :
    ∀ c ∈ cs, isNumeralChar c = true := by
  cases h with
  | unsigned h => exact h.isNumeralChar
  | plus h => exact List.forall_mem_cons.2 ⟨by decide, h.isNumeralChar⟩
  | minus h => exact List.forall_mem_cons.2 ⟨by decide, h.isNumeralChar⟩

theorem Tail.isNumeralChar {negative : Bool} {s : Significand} {t : List Char} {v : Json}
    (h : Tail negative s t v) : ∀ c ∈ t, isNumeralChar c = true := by
  cases h with
  | whole => simp
  | fraction hds => exact List.forall_mem_cons.2 ⟨by decide, hds.isNumeralChar⟩
  | exponent he hds =>
    exact List.forall_mem_cons.2 ⟨isNumeralChar_of_letter he, hds.isNumeralChar⟩
  | fractionExponent hfs he hds =>
    refine List.forall_mem_cons.2 ⟨by decide, List.forall_mem_append.2 ⟨hfs.isNumeralChar, ?_⟩⟩
    exact List.forall_mem_cons.2 ⟨isNumeralChar_of_letter he, hds.isNumeralChar⟩

theorem Numeral.isNumeralChar {n : List Char} {v : Json} (h : Numeral n v) :
    ∀ c ∈ n, isNumeralChar c = true := by
  obtain ⟨hds, -, ht⟩ := h
  refine List.forall_mem_append.2
    ⟨?_, List.forall_mem_append.2 ⟨hds.isNumeralChar, ht.isNumeralChar⟩⟩
  unfold minusSign
  split
  · exact List.all_eq_true.1 rfl
  · simp

theorem Numeral.exists_cons {n : List Char} {v : Json} (h : Numeral n v) :
    ∃ c cs, n = c :: cs ∧ (c = '-' ∨ c.isDigit = true) := by
  obtain @⟨negative, ds, t, _, ⟨hne, hds⟩, -, -⟩ := h
  obtain ⟨d, ds, rfl⟩ := List.exists_cons_of_ne_nil hne
  cases negative with
  | true => exact ⟨'-', _, rfl, .inl rfl⟩
  | false => exact ⟨d, ds ++ t, rfl, .inr (hds d List.mem_cons_self)⟩

/-- What follows a numeral: nothing, or a character that does not belong to it. -/
def EndsNumeral (rest : List Char) : Prop := ∀ c ∈ rest.head?, isNumeralChar c = false

namespace EndsNumeral

variable {rest : List Char}

theorem nil : EndsNumeral [] := by
  rintro c ⟨⟩

theorem cons {c : Char} (h : isNumeralChar c = false) : EndsNumeral (c :: rest) := by
  rintro _ ⟨⟩
  exact h

theorem isDigit (h : EndsNumeral rest) : ∀ c ∈ rest.head?, c.isDigit = false := by
  intro c hc
  have hn := h c hc
  unfold isNumeralChar at hn
  exact (Bool.or_eq_false_iff.1 hn).1

end EndsNumeral

/-! ## Reading -/

theorem readExponent?_append {cs ds rest : List Char} {down : Bool} (h : Exponent cs down ds)
    (hrest : EndsNumeral rest) : readExponent? (cs ++ rest) = some (down, ds, rest) := by
  have hspan : ∀ {ds : List Char}, Digits ds →
      (ds ++ rest).takeWhile Char.isDigit = ds ∧ (ds ++ rest).dropWhile Char.isDigit = rest :=
    fun hds => Text.takeWhile_dropWhile_append hds.2 hrest.isDigit
  cases h with
  | plus hds | minus hds =>
    obtain ⟨htake, hdrop⟩ := hspan hds
    have hne := hds.1
    simp [readExponent?, htake, hdrop, hne]
  | unsigned hds =>
    obtain ⟨htake, hdrop⟩ := hspan hds
    obtain ⟨hne, hdigit⟩ := hds
    obtain ⟨d, ds, rfl⟩ := List.exists_cons_of_ne_nil hne
    have hd := hdigit d List.mem_cons_self
    unfold readExponent?
    split
    next heq =>
      split at heq
      · next hcons =>
        obtain ⟨rfl, -⟩ := List.cons.inj hcons
        cases hd
      · next hcons =>
        obtain ⟨rfl, -⟩ := List.cons.inj hcons
        cases hd
      · obtain ⟨rfl, rfl⟩ := Prod.mk.inj heq
        simp only [htake, hdrop]
        simp

theorem digits_takeWhile {cs : List Char} (h : (cs.takeWhile Char.isDigit).isEmpty = false) :
    Digits (cs.takeWhile Char.isDigit) := by
  refine ⟨fun hnil => ?_, List.all_eq_true.1 List.all_takeWhile⟩
  rw [hnil] at h
  cases h

theorem exists_exponent {cs ds rest : List Char} {down : Bool}
    (h : readExponent? cs = some (down, ds, rest)) :
    ∃ e, cs = e ++ rest ∧ Exponent e down ds := by
  unfold readExponent? at h
  split at h
  next down' cs' heq =>
    dsimp only at h
    split at h
    · cases h
    · next hne =>
      have hds := digits_takeWhile (Bool.eq_false_iff.2 hne)
      have hcs := (List.takeWhile_append_dropWhile (p := Char.isDigit) (l := cs')).symm
      obtain ⟨rfl, rfl, rfl⟩ : down' = down ∧ _ = ds ∧ _ = rest := by simpa using h
      split at heq
      · obtain ⟨rfl, rfl⟩ := Prod.mk.inj heq
        exact ⟨_, congrArg (List.cons '-') hcs, .minus hds⟩
      · obtain ⟨rfl, rfl⟩ := Prod.mk.inj heq
        exact ⟨_, congrArg (List.cons '+') hcs, .plus hds⟩
      · obtain ⟨rfl, rfl⟩ := Prod.mk.inj heq
        exact ⟨_, hcs, .unsigned hds⟩

section Tails

variable {negative : Bool} {s : Significand} {t rest : List Char} {v : Json}

theorem readAfterWhole?_append (h : Tail negative s t v) (hrest : EndsNumeral rest) :
    readAfterWhole? negative s (t ++ rest) = some (v, rest) := by
  cases h with
  | whole h =>
    unfold readAfterWhole?
    rw [List.nil_append]
    split
    · cases hrest '.' rfl
    · cases hrest 'e' rfl
    · cases hrest 'E' rfl
    · rw [h]
      rfl
  | @fraction ds x hds h =>
    obtain ⟨htake, hdrop⟩ := Text.takeWhile_dropWhile_append hds.2 hrest.isDigit
    have hne := hds.1
    simp only [List.cons_append, readAfterWhole?, htake, hdrop, List.isEmpty_iff, hne, if_false]
    split
    · cases hrest 'e' rfl
    · cases hrest 'E' rfl
    · rw [h]
      rfl
  | exponent he hds h =>
    have hexp := readExponent?_append hds hrest
    rcases he with rfl | rfl
    · simp [readAfterWhole?, hexp, h]
    · simp [readAfterWhole?, hexp, h]
  | @fractionExponent e fs cs ds down x hfs he hds h =>
    have hexp := readExponent?_append hds hrest
    have hne := hfs.1
    have he' : ∀ c ∈ (e :: (cs ++ rest)).head?, c.isDigit = false := by
      rintro _ ⟨⟩
      rcases he with rfl | rfl <;> decide
    obtain ⟨htake, hdrop⟩ := Text.takeWhile_dropWhile_append hfs.2 he'
    rw [List.cons_append, List.append_assoc, List.cons_append]
    simp only [readAfterWhole?, htake, hdrop, List.isEmpty_iff, hne, if_false]
    rcases he with rfl | rfl
    · simp [hexp, h]
    · simp [hexp, h]

theorem exists_of_exponent {cs : List Char}
    (h : (do
      let (down, ds, rest) ← readExponent? cs
      some (Json.double (← withExponent? negative s down ds), rest)) = some (v, rest)) :
    ∃ e down ds x, cs = e ++ rest ∧ Exponent e down ds ∧
      withExponent? negative s down ds = some x ∧ v = .double x := by
  cases hexp : readExponent? cs with
  | none =>
    rw [hexp] at h
    cases h
  | some r =>
    obtain ⟨down, ds, rest'⟩ := r
    obtain ⟨e, rfl, he⟩ := exists_exponent hexp
    rw [hexp] at h
    dsimp only [Option.bind_eq_bind, Option.bind_some] at h
    cases hx : withExponent? negative s down ds with
    | none =>
      rw [hx] at h
      cases h
    | some x =>
      rw [hx] at h
      cases h
      exact ⟨e, down, ds, x, rfl, he, hx, rfl⟩

theorem exists_tail {cs : List Char} (h : readAfterWhole? negative s cs = some (v, rest)) :
    ∃ t, cs = t ++ rest ∧ Tail negative s t v := by
  unfold readAfterWhole? at h
  split at h
  · next cs =>
    dsimp only at h
    split at h
    · cases h
    next hne =>
    have hds := digits_takeWhile (Bool.eq_false_iff.2 hne)
    have hcs := (List.takeWhile_append_dropWhile (p := Char.isDigit) (l := cs)).symm
    split at h
    · next hdrop =>
      obtain ⟨e, down, es, x, rfl, he, hx, rfl⟩ := exists_of_exponent h
      rw [hdrop, ← List.cons_append, ← List.append_assoc] at hcs
      exact ⟨_, congrArg (List.cons '.') hcs, .fractionExponent hds (.inl rfl) he hx⟩
    · next hdrop =>
      obtain ⟨e, down, es, x, rfl, he, hx, rfl⟩ := exists_of_exponent h
      rw [hdrop, ← List.cons_append, ← List.append_assoc] at hcs
      exact ⟨_, congrArg (List.cons '.') hcs, .fractionExponent hds (.inr rfl) he hx⟩
    · obtain ⟨x, hx, hv⟩ := Option.map_eq_some_iff.1 h
      obtain ⟨rfl, rfl⟩ := Prod.mk.inj hv
      exact ⟨_, congrArg (List.cons '.') hcs, .fraction hds hx⟩
  · obtain ⟨e, down, es, x, rfl, he, hx, rfl⟩ := exists_of_exponent h
    exact ⟨_, rfl, .exponent (.inl rfl) he hx⟩
  · obtain ⟨e, down, es, x, rfl, he, hx, rfl⟩ := exists_of_exponent h
    exact ⟨_, rfl, .exponent (.inr rfl) he hx⟩
  · obtain ⟨w, hw, hv⟩ := Option.map_eq_some_iff.1 h
    obtain ⟨rfl, rfl⟩ := Prod.mk.inj hv
    exact ⟨[], rfl, .whole hw⟩

end Tails

/-- What is read behind the sign of a numeral. -/
def readUnsigned? (negative : Bool) (cs : List Char) : Option (Json × List Char) :=
  match cs with
  | '0' :: rest =>
    match rest with
    | c :: _ => if c.isDigit then none else readAfterWhole? negative ⟨0, 0⟩ rest
    | [] => readAfterWhole? negative ⟨0, 0⟩ []
  | _ =>
    let digits := cs.takeWhile Char.isDigit
    if digits.isEmpty then none
    else readAfterWhole? negative (Significand.takeWhole ⟨0, 0⟩ digits) (cs.dropWhile Char.isDigit)

theorem readNumeral?_minus (cs : List Char) :
    readNumeral? ('-' :: cs) = readUnsigned? true cs := rfl

theorem readNumeral?_unsigned {cs : List Char} (h : ∀ ds, cs ≠ '-' :: ds) :
    readNumeral? cs = readUnsigned? false cs := by
  unfold readNumeral?
  split
  next heq =>
    split at heq
    · exact absurd rfl (h _)
    · obtain ⟨rfl, rfl⟩ := Prod.mk.inj heq
      rfl

theorem Tail.ends {negative : Bool} {s : Significand} {t rest : List Char} {v : Json}
    (h : Tail negative s t v) (hrest : EndsNumeral rest) :
    ∀ c ∈ (t ++ rest).head?, c.isDigit = false := by
  cases h with
  | whole => exact hrest.isDigit
  | fraction | fractionExponent =>
    rintro _ ⟨⟩
    rfl
  | exponent he =>
    rintro _ ⟨⟩
    rcases he with rfl | rfl <;> rfl

theorem readUnsigned?_append {negative : Bool} {ds t rest : List Char} {v : Json}
    (hds : Digits ds) (hzero : ds = ['0'] ∨ ∀ cs, ds ≠ '0' :: cs)
    (ht : Tail negative (Significand.takeWhole ⟨0, 0⟩ ds) t v) (hrest : EndsNumeral rest) :
    readUnsigned? negative (ds ++ (t ++ rest)) = some (v, rest) := by
  have hread := readAfterWhole?_append ht hrest
  have hends := ht.ends hrest
  rcases hzero with rfl | hzero
  · have hread : readAfterWhole? negative ⟨0, 0⟩ (t ++ rest) = some (v, rest) := hread
    unfold readUnsigned?
    rw [List.singleton_append]
    dsimp only
    cases hrest' : t ++ rest with
    | nil =>
      rw [hrest'] at hread
      exact hread
    | cons c cs =>
      rw [hrest'] at hread hends
      have hc : c.isDigit = false := hends c rfl
      simp only [hc, Bool.false_eq_true, if_false]
      exact hread
  · obtain ⟨htake, hdrop⟩ := Text.takeWhile_dropWhile_append hds.2 hends
    have hne := hds.1
    unfold readUnsigned?
    split
    · next cs heq =>
      obtain ⟨d, ds, rfl⟩ := List.exists_cons_of_ne_nil hne
      obtain ⟨rfl, -⟩ := List.cons.inj heq
      exact absurd rfl (hzero ds)
    · simp only [htake, hdrop, List.isEmpty_iff, hne, if_false, hread]

/-- **A numeral is read** in front of anything that does not go on with it. -/
theorem readNumeral?_append {n rest : List Char} {v : Json} (h : Numeral n v)
    (hrest : EndsNumeral rest) : readNumeral? (n ++ rest) = some (v, rest) := by
  obtain @⟨negative, ds, t, _, hds, hzero, ht⟩ := h
  have hread := readUnsigned?_append hds hzero ht hrest
  rw [List.append_assoc, List.append_assoc]
  cases negative with
  | true => exact hread
  | false =>
    rw [minusSign, if_neg Bool.false_ne_true, List.nil_append, readNumeral?_unsigned, hread]
    rintro cs heq
    obtain ⟨d, ds, rfl⟩ := List.exists_cons_of_ne_nil hds.1
    obtain ⟨rfl, -⟩ := List.cons.inj heq
    cases hds.2 '-' List.mem_cons_self

theorem exists_unsigned {negative : Bool} {cs rest : List Char} {v : Json}
    (h : readUnsigned? negative cs = some (v, rest)) :
    ∃ n, cs = n ++ rest ∧ Numeral (minusSign negative ++ n) v := by
  have hzero : Digits ['0'] := ⟨List.cons_ne_nil _ _, List.all_eq_true.1 rfl⟩
  unfold readUnsigned? at h
  split at h
  · split at h
    · split at h
      · cases h
      · obtain ⟨t, ht, htail⟩ := exists_tail h
        exact ⟨_, congrArg (List.cons '0') ht, .intro hzero (.inl rfl) htail⟩
    · obtain ⟨t, ht, htail⟩ := exists_tail h
      exact ⟨_, congrArg (List.cons '0') ht, .intro hzero (.inl rfl) htail⟩
  · next hne =>
    dsimp only at h
    split at h
    · cases h
    next hempty =>
    obtain ⟨t, ht, htail⟩ := exists_tail h
    have hds := digits_takeWhile (Bool.eq_false_iff.2 hempty)
    have hcs := (List.takeWhile_append_dropWhile (p := Char.isDigit) (l := cs)).symm
    rw [ht] at hcs
    refine ⟨_, hcs.trans (List.append_assoc _ _ _).symm, .intro hds (.inr fun ds heq => ?_) htail⟩
    rw [heq] at hcs
    exact hne _ hcs

/-- **What is read is a numeral.** -/
theorem exists_numeral {cs rest : List Char} {v : Json} (h : readNumeral? cs = some (v, rest)) :
    ∃ n, cs = n ++ rest ∧ Numeral n v := by
  by_cases hminus : ∃ ds, cs = '-' :: ds
  · obtain ⟨ds, rfl⟩ := hminus
    obtain ⟨n, rfl, hn⟩ := exists_unsigned (readNumeral?_minus ds ▸ h)
    exact ⟨'-' :: n, rfl, hn⟩
  · rw [readNumeral?_unsigned fun ds heq => hminus ⟨ds, heq⟩] at h
    exact exists_unsigned h

/-! ## Integers -/

theorem le_foldl_digits (ds : List Char) (n : Nat) :
    n ≤ ds.foldl (fun n c => 10 * n + Text.digitVal c) n := by
  induction ds generalizing n with
  | nil => exact Nat.le_refl n
  | cons d ds ih =>
    have hstep : n ≤ 10 * n + Text.digitVal d := by omega
    exact Nat.le_trans hstep (ih _)

theorem takeWhole_of_lt {ds : List Char} {n : Nat}
    (h : ds.foldl (fun n c => 10 * n + Text.digitVal c) n < 0x10000000000000000) :
    Significand.takeWhole ⟨n, 0⟩ ds = ⟨ds.foldl (fun n c => 10 * n + Text.digitVal c) n, 0⟩ := by
  induction ds generalizing n with
  | nil => rfl
  | cons d ds ih =>
    rw [List.foldl_cons] at h ⊢
    have hle := le_foldl_digits ds (10 * n + Text.digitVal d)
    have hfits : Significand.fits ⟨n, 0⟩ d = true :=
      decide_eq_true (by simp only; omega)
    rw [Significand.takeWhole, if_pos hfits, ← ih h]
    simp only [Nat.mul_comm]

theorem takeWhole_decimal {n : Nat} (h : n < 0x10000000000000000) :
    Significand.takeWhole ⟨0, 0⟩ (Text.decimal n) = ⟨n, 0⟩ := by
  have hread : (Text.decimal n).foldl (fun n c => 10 * n + Text.digitVal c) 0 = n :=
    (Text.writes_decimal n).readNat
  rw [takeWhole_of_lt (by rwa [hread]), hread]

/-- Only zero is written with a zero in front. -/
theorem decimal_ne_zero_cons {n : Nat} (h : 0 < n) (cs : List Char) :
    Text.decimal n ≠ '0' :: cs := by
  induction n using Nat.strongRecOn generalizing cs with
  | ind n ih =>
    unfold Text.decimal
    by_cases hn : n < 10
    · rw [Nat.toDigits_of_lt_base hn]
      intro heq
      have hall : ∀ m, m < 10 → 0 < m → Nat.digitChar m ≠ '0' := by decide
      exact hall n hn h (List.cons.inj heq).1
    · rw [Nat.toDigits_of_base_le (by decide) (by omega)]
      intro heq
      obtain ⟨d, ds, hd⟩ := List.exists_cons_of_ne_nil (Text.writes_decimal (n / 10)).ne_nil
      rw [show Nat.toDigits 10 (n / 10) = d :: ds from hd, List.cons_append] at heq
      obtain ⟨rfl, -⟩ := List.cons.inj heq
      exact ih (n / 10) (by omega) (by omega) ds hd

/-- **An integer of 64 bits, with or without sign, is a numeral of itself.** -/
theorem numeral_signed {n : Int} (hlow : -0x8000000000000000 ≤ n)
    (hhigh : n < 0x10000000000000000) : Numeral (Text.signed n) (.int n) := by
  have hwrites := Text.writes_decimal n.natAbs
  have hdigits : Digits (Text.decimal n.natAbs) := ⟨hwrites.ne_nil, hwrites.isDigit⟩
  have htake : Significand.takeWhole ⟨0, 0⟩ (Text.decimal n.natAbs) = ⟨n.natAbs, 0⟩ :=
    takeWhole_decimal (by omega)
  have hzero : Text.decimal n.natAbs = ['0'] ∨ ∀ cs, Text.decimal n.natAbs ≠ '0' :: cs := by
    rcases Nat.eq_zero_or_pos n.natAbs with h | h
    · rw [h]
      exact .inl rfl
    · exact .inr (decimal_ne_zero_cons h)
  have hnumeral : ∀ negative, ofWhole? negative ⟨n.natAbs, 0⟩ = some (.int n) →
      Numeral (minusSign negative ++ (Text.decimal n.natAbs ++ [])) (.int n) :=
    fun negative h => .intro hdigits hzero (htake ▸ .whole h)
  unfold Text.signed
  by_cases hn : n < 0
  · have hwhole : ofWhole? true ⟨n.natAbs, 0⟩ = some (.int n) := by
      have hvalue : ¬(n.natAbs = 0 ∨ 0x8000000000000000 < n.natAbs) := by omega
      have habs : -(n.natAbs : Int) = n := by omega
      simp only [ofWhole?, hvalue, habs, if_false, ne_eq, not_true, Bool.not_true,
        Bool.false_eq_true]
    rw [if_pos hn, ← List.append_nil (Text.decimal n.natAbs)]
    exact hnumeral true hwhole
  · have hwhole : ofWhole? false ⟨n.natAbs, 0⟩ = some (.int n) := by
      have habs : (n.natAbs : Int) = n := by omega
      simp [ofWhole?, habs]
    rw [if_neg hn, ← List.append_nil (Text.decimal n.natAbs)]
    exact hnumeral false hwhole

end Logbook.Json
