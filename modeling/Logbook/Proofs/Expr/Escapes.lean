import Logbook.Proofs.Expr.Spelling
import Logbook.Proofs.Text.Hexadecimal

/-!
# Quoted texts and their escapes

Between two quotes stand units: a character that stands for itself, or an escape, by letter or by
number. A number is meant to be written with just two or just four hexadecimal digits; what is read
may have a plus sign in place of the first of them.

* `QuotedUnit`: the units, `Divides`: a quoted text divided into units;
* `exists_divides_of_readText`, `readText_of_divides`: a quoted text is read by its units;
* `Signed`: a unit whose number has a sign;
* **`readText_eq_ok_iff`**: a quoted text is read just when it can be divided into units, and these
  are units as they are meant unless one of them is signed;
* **`not_readText_eq_ok_iff`**: `'\x+1'` is read.
-/

namespace Logbook.Expr

open Text (WritesHex NumeralHex)

/-! ## Units -/

/-- A unit of what stands between two quotes `q`: how it is written, and the character that it
stands for. The numbers of escapes are written as `numeral` says. -/
inductive QuotedUnit (numeral : List Char → Nat → Prop) (q : Char) : List Char → Char → Prop where
  | plain {c : Char} : c ≠ q → c ≠ '\\' → QuotedUnit numeral q [c] c
  | newline : QuotedUnit numeral q ['\\', 'n'] '\n'
  | tab : QuotedUnit numeral q ['\\', 't'] '\t'
  | carriage : QuotedUnit numeral q ['\\', 'r'] '\r'
  | null : QuotedUnit numeral q ['\\', '0'] '\x00'
  | itself {c : Char} : c ∉ ['n', 't', 'r', '0', 'x', 'u'] → QuotedUnit numeral q ['\\', c] c
  | byte {a b : Char} {n : Nat} : numeral [a, b] n → n.isValidChar →
    QuotedUnit numeral q ['\\', 'x', a, b] (Char.ofNat n)
  | scalar {a b c d : Char} {n : Nat} : numeral [a, b, c, d] n → n.isValidChar →
    QuotedUnit numeral q ['\\', 'u', a, b, c, d] (Char.ofNat n)

/-- **A quoted text is divided into units**, each given with its character, up to the quote that
follows them. The characters of the units are what is taken, and the quote is the last character
that is passed over. -/
structure Divides (numeral : List Char → Nat → Prop) (q : Char) (units : List (List Char × Char))
    (cs : List Char) (t : Taken (List Char)) : Prop where
  unit : ∀ u ∈ units, QuotedUnit numeral q u.1 u.2
  chars : cs = units.flatMap Prod.fst ++ q :: t.rest
  result : t.result = units.map Prod.snd
  size : t.size = (units.flatMap Prod.fst).length + 1

variable {numeral : List Char → Nat → Prop} {q : Char}

theorem Divides.cons {lexeme cs : List Char} {c : Char} {units : List (List Char × Char)}
    {t : Taken (List Char)} (hunit : QuotedUnit numeral q lexeme c)
    (h : Divides numeral q units cs t) :
    Divides numeral q ((lexeme, c) :: units) (lexeme ++ cs) (t.cons c lexeme.length) where
  unit := List.forall_mem_cons.2 ⟨hunit, h.unit⟩
  chars := by rw [h.chars, List.flatMap_cons, List.append_assoc, Taken.cons]
  result := by rw [List.map_cons, ← h.result, Taken.cons]
  size := by
    simp only [List.flatMap_cons, List.length_append, Taken.cons, h.size]
    omega

/-! ## Reading -/

theorem lt_of_isValidChar {n : Nat} (h : n.isValidChar) : n < 0x100000000 := by
  rcases h with h | ⟨-, h⟩ <;> omega

theorem numeralHex_of_numberedEscape {column : Nat} {digits : List Char} {c : Char}
    (h : numberedEscape column digits = .ok c) :
    ∃ n, NumeralHex digits n ∧ n.isValidChar ∧ Char.ofNat n = c := by
  unfold numberedEscape at h
  split at h
  · next n hn =>
    split at h
    · next hchar => exact ⟨n, (Text.readHex?_eq_some_iff.1 hn).1, hchar, Except.ok.inj h⟩
    · cases h
  · cases h

theorem quotedUnit_letterEscape {c : Char} (hx : c ≠ 'x') (hu : c ≠ 'u') :
    QuotedUnit numeral q ['\\', c] (letterEscape c) := by
  by_cases hn : c = 'n'
  · exact hn ▸ .newline
  by_cases ht : c = 't'
  · exact ht ▸ .tab
  by_cases hr : c = 'r'
  · exact hr ▸ .carriage
  by_cases hzero : c = '0'
  · exact hzero ▸ .null
  have hletter : letterEscape c = c := by simp [letterEscape, hn, ht, hr, hzero]
  rw [hletter]
  exact .itself (by simp [hn, ht, hr, hzero, hx, hu])

theorem exists_of_map_cons {x : Except CompileError (Taken (List Char))} {c : Char} {n : Nat}
    {t : Taken (List Char)} (h : x.map (·.cons c n) = .ok t) : ∃ s, x = .ok s ∧ s.cons c n = t := by
  cases x with
  | error e => cases h
  | ok s => exact ⟨s, rfl, Except.ok.inj h⟩

theorem exists_of_numbered {column n : Nat} {digits : List Char}
    {x : Except CompileError (Taken (List Char))} {t : Taken (List Char)}
    (h : (numberedEscape column digits >>= fun c => x.map (·.cons c n)) = .ok t) :
    ∃ m s, NumeralHex digits m ∧ m.isValidChar ∧ x = .ok s ∧ s.cons (Char.ofNat m) n = t := by
  cases hc : numberedEscape column digits with
  | error e =>
    rw [hc] at h
    cases h
  | ok c =>
    rw [hc] at h
    obtain ⟨m, hm, hchar, rfl⟩ := numeralHex_of_numberedEscape hc
    obtain ⟨s, hs, ht⟩ := exists_of_map_cons h
    exact ⟨m, s, hm, hchar, hs, ht⟩

theorem exists_divides_of_readText {start column : Nat} {cs : List Char} {t : Taken (List Char)}
    (h : readText q start column cs = .ok t) : ∃ units, Divides NumeralHex q units cs t := by
  fun_induction readText q start column cs generalizing t with
  | case1 | case2 | case4 | case6 => cases h
  | case3 column a b rest ih =>
    obtain ⟨n, s, hn, hchar, hs, rfl⟩ := exists_of_numbered h
    obtain ⟨units, hunits⟩ := ih hs
    exact ⟨_, hunits.cons (.byte hn hchar)⟩
  | case5 column a b c d rest ih =>
    obtain ⟨n, s, hn, hchar, hs, rfl⟩ := exists_of_numbered h
    obtain ⟨units, hunits⟩ := ih hs
    exact ⟨_, hunits.cons (.scalar hn hchar)⟩
  | case7 column c rest _ hx _ hu ih =>
    obtain ⟨s, hs, rfl⟩ := exists_of_map_cons h
    obtain ⟨units, hunits⟩ := ih hs
    exact ⟨_, hunits.cons (quotedUnit_letterEscape hx hu)⟩
  | case8 =>
    obtain rfl := Except.ok.inj h
    exact ⟨[], by simp, rfl, rfl, rfl⟩
  | case9 column c rest hlast _ _ _ _ hslash hq ih =>
    obtain ⟨s, hs, rfl⟩ := exists_of_map_cons h
    obtain ⟨units, hunits⟩ := ih hs
    refine ⟨_, hunits.cons (.plain hq fun heq => ?_)⟩
    cases rest with
    | nil => exact hlast heq rfl
    | cons d rest => exact hslash d rest heq rfl

theorem QuotedUnit.quoted {c : Char} {lexeme cs text : List Char}
    (h : QuotedUnit NumeralHex q lexeme c) (hcs : Quoted q cs text) :
    Quoted q (lexeme ++ cs) (c :: text) := by
  cases h with
  | plain hq hslash => exact .plain hq hslash hcs
  | newline => exact .letter (c := 'n') (by decide) (by decide) hcs
  | tab => exact .letter (c := 't') (by decide) (by decide) hcs
  | carriage => exact .letter (c := 'r') (by decide) (by decide) hcs
  | null => exact .letter (c := '0') (by decide) (by decide) hcs
  | itself hc =>
    obtain ⟨hn, ht, hr, hzero, hx, hu, -⟩ : c ≠ 'n' ∧ c ≠ 't' ∧ c ≠ 'r' ∧ c ≠ '0' ∧ c ≠ 'x' ∧
        c ≠ 'u' ∧ True := by simpa using hc
    have hletter : letterEscape c = c := by simp [letterEscape, hn, ht, hr, hzero]
    have hquoted := Quoted.letter hx hu hcs
    rwa [hletter] at hquoted
  | byte hn hchar =>
    exact .byte (Text.readHex?_eq_some_iff.2 ⟨hn, lt_of_isValidChar hchar⟩) hchar hcs
  | scalar hn hchar =>
    exact .unit (Text.readHex?_eq_some_iff.2 ⟨hn, lt_of_isValidChar hchar⟩) hchar hcs

theorem quoted_of_units {units : List (List Char × Char)}
    (h : ∀ u ∈ units, QuotedUnit NumeralHex q u.1 u.2) :
    Quoted q (units.flatMap Prod.fst) (units.map Prod.snd) := by
  induction units with
  | nil => exact .nil
  | cons u units ih =>
    obtain ⟨hu, hunits⟩ := List.forall_mem_cons.1 h
    exact hu.quoted (ih hunits)

theorem readText_of_divides (hq : q ≠ '\\') {units : List (List Char × Char)} {cs : List Char}
    {t : Taken (List Char)} (h : Divides NumeralHex q units cs t) (start column : Nat) :
    readText q start column cs = .ok t := by
  rw [h.chars, readText_append hq (quoted_of_units h.unit), ← h.result, ← h.size]

/-! ## Signs -/

/-- A unit whose number has a sign, which stands behind the backslash and the letter. -/
def Signed (lexeme : List Char) : Prop := lexeme[2]? = some '+'

instance (lexeme : List Char) : Decidable (Signed lexeme) :=
  inferInstanceAs (Decidable (lexeme[2]? = some '+'))

/-- Without a sign, the units that are read are those that are meant. -/
theorem QuotedUnit.writesHex_iff {c : Char} {lexeme : List Char}
    (h : QuotedUnit NumeralHex q lexeme c) :
    QuotedUnit WritesHex q lexeme c ↔ ¬Signed lexeme := by
  unfold Signed
  constructor
  · intro hmeant
    cases hmeant with
    | byte hn | scalar hn => exact hn.head?_ne_plus
    | _ => simp
  · intro hsign
    cases h with
    | plain hq hslash => exact .plain hq hslash
    | newline => exact .newline
    | tab => exact .tab
    | carriage => exact .carriage
    | null => exact .null
    | itself hc => exact .itself hc
    | byte hn hchar => exact .byte (hn.writesHex_iff.2 hsign) hchar
    | scalar hn hchar => exact .scalar (hn.writesHex_iff.2 hsign) hchar

theorem Divides.writesHex_iff {units : List (List Char × Char)} {cs : List Char}
    {t : Taken (List Char)} (h : Divides NumeralHex q units cs t) :
    Divides WritesHex q units cs t ↔ ∀ u ∈ units, ¬Signed u.1 := by
  constructor
  · exact fun hmeant u hu => (h.unit u hu).writesHex_iff.1 (hmeant.unit u hu)
  · intro hsign
    exact { h with unit := fun u hu => (h.unit u hu).writesHex_iff.2 (hsign u hu) }

/-- **A quoted text is read** just when a quote closes it and it can be divided into units in front
of that quote. They are units as they are meant, with digits alone, just when none of them is
signed. -/
theorem readText_eq_ok_iff (hq : q = '\'' ∨ q = '"') {start column : Nat} {cs : List Char}
    {t : Taken (List Char)} :
    (readText q start column cs = .ok t ↔ ∃ units, Divides NumeralHex q units cs t) ∧
      ∀ units, Divides NumeralHex q units cs t →
        (Divides WritesHex q units cs t ↔ ∀ u ∈ units, ¬Signed u.1) := by
  have hslash : q ≠ '\\' := by rcases hq with rfl | rfl <;> decide
  refine ⟨⟨exists_divides_of_readText, ?_⟩, fun units h => h.writesHex_iff⟩
  rintro ⟨units, h⟩
  exact readText_of_divides hslash h start column

/-- The units of `\x41\u20AC`. -/
def euroUnits : List (List Char × Char) := [("\\x41".toList, 'A'), ("\\u20AC".toList, '€')]

theorem readText_eq_ok_iff_euro : ('\'' = '\'' ∨ '\'' = '"') ∧
    readText '\'' 1 2 "\\x41\\u20AC' + id".toList = .ok ⟨['A', '€'], 11, " + id".toList⟩ ∧
    Divides WritesHex '\'' euroUnits "\\x41\\u20AC' + id".toList
      ⟨['A', '€'], 11, " + id".toList⟩ := by
  have hletter : WritesHex ['4', '1'] 0x41 :=
    ⟨by decide, List.all_eq_true.1 (by decide), rfl⟩
  have heuro : WritesHex ['2', '0', 'A', 'C'] 0x20AC :=
    ⟨by decide, List.all_eq_true.1 (by decide), rfl⟩
  have hunits : Divides NumeralHex '\'' euroUnits "\\x41\\u20AC' + id".toList
      ⟨['A', '€'], 11, " + id".toList⟩ :=
    { unit := List.forall_mem_cons.2
        ⟨.byte (n := 0x41) (.inl hletter) (by decide),
          List.forall_mem_singleton.2 (.scalar (n := 0x20AC) (.inl heuro) (by decide))⟩
      chars := rfl
      result := rfl
      size := rfl }
  obtain ⟨hread, hmeant⟩ := @readText_eq_ok_iff '\'' (.inl rfl) 1 2 _ _
  refine ⟨.inl rfl, hread.2 ⟨euroUnits, hunits⟩, (hmeant euroUnits hunits).2 ?_⟩
  decide

/-- **A sign is read in place of a digit.** The text `'\x+1'` is read as the character with the
number one, although two hexadecimal digits have to follow the letter. -/
theorem not_readText_eq_ok_iff :
    ¬ ∀ (q : Char) (start column : Nat) (cs : List Char) (t : Taken (List Char)),
      q = '\'' ∨ q = '"' →
        (readText q start column cs = .ok t ↔ ∃ units, Divides WritesHex q units cs t) := by
  intro h
  have hread : readText '\'' 1 2 ['\\', 'x', '+', '1', '\''] = .ok ⟨['\x01'], 5, []⟩ := rfl
  obtain ⟨units, hunits⟩ := (h _ _ _ _ _ (.inl rfl)).1 hread
  have hchars := hunits.chars
  cases units with
  | nil => cases hchars
  | cons u units =>
    obtain ⟨lexeme, c⟩ := u
    rw [List.flatMap_cons, List.append_assoc] at hchars
    have hunit : QuotedUnit WritesHex '\'' lexeme c := hunits.unit _ List.mem_cons_self
    cases hunit with
    | plain _ hslash => exact hslash (List.cons.inj hchars).1.symm
    | itself hc =>
      obtain ⟨rfl, -⟩ := List.cons.inj (List.cons.inj hchars).2
      exact hc (by decide)
    | byte hn =>
      obtain ⟨rfl, -⟩ := List.cons.inj (List.cons.inj (List.cons.inj hchars).2).2
      exact hn.head?_ne_plus rfl
    | _ => cases hchars

end Logbook.Expr
