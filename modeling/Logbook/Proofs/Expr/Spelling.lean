import Logbook.Expr.Lexer
import Logbook.Proofs.Text.Blanks
import Logbook.Proofs.Text.Numerals

/-!
# How tokens are spelled

* `Spells`: the ways to write a token;
* `Spaced`: a text of some tokens with blanks between them;
* `readToken_append`: a token is read where it is spelled and something ends it;
* **`tokenize_spaced`**: the tokens of such a text.
-/

namespace Logbook.Expr

/-! ## Spellings -/

/-- A decimal number without a sign: digits, perhaps a fraction, perhaps an exponent. -/
def IsDecimal (cs : List Char) : Prop :=
  ∃ whole fraction exponent, cs = whole ++ (fraction ++ exponent) ∧
    (∀ c ∈ whole, c.isDigit = true) ∧
    (fraction = [] ∨ ∃ ds, fraction = '.' :: ds ∧ ∀ c ∈ ds, c.isDigit = true) ∧
    (exponent = [] ∨ ∃ e sign d ds, exponent = e :: (sign ++ d :: ds) ∧ (e = 'e' ∨ e = 'E') ∧
      (sign = [] ∨ sign = ['+'] ∨ sign = ['-']) ∧ ∀ c ∈ d :: ds, c.isDigit = true) ∧
    (whole ≠ [] ∨ ∃ d ds, fraction = '.' :: d :: ds)

/-- What stands between two quotes `q` for a text: plain characters and escapes. -/
inductive Quoted (q : Char) : List Char → List Char → Prop where
  | nil : Quoted q [] []
  | plain {c : Char} {cs text : List Char} : c ≠ q → c ≠ '\\' → Quoted q cs text →
    Quoted q (c :: cs) (c :: text)
  | letter {c : Char} {cs text : List Char} : c ≠ 'x' → c ≠ 'u' → Quoted q cs text →
    Quoted q ('\\' :: c :: cs) (letterEscape c :: text)
  | byte {a b : Char} {v : Nat} {cs text : List Char} :
    Text.readHex? 0x100000000 [a, b] = some v → v.isValidChar → Quoted q cs text →
    Quoted q ('\\' :: 'x' :: a :: b :: cs) (Char.ofNat v :: text)
  | unit {a b c d : Char} {v : Nat} {cs text : List Char} :
    Text.readHex? 0x100000000 [a, b, c, d] = some v → v.isValidChar → Quoted q cs text →
    Quoted q ('\\' :: 'u' :: a :: b :: c :: d :: cs) (Char.ofNat v :: text)

/-- A text that can stand as a name. -/
def IsName (n : String) : Prop :=
  ∃ c cs, n.toList = c :: cs ∧ isNameStart c = true ∧ ∀ d ∈ cs, isNamePart d = true

/-- The ways to write a token. -/
inductive Spells : Token → List Char → Prop where
  | number {x : Float} {cs : List Char} : IsDecimal cs → Literal.toFloat? cs = some x →
    Spells (.number x) cs
  | text {q : Char} {cs text : List Char} : q = '\'' ∨ q = '"' → Quoted q cs text →
    Spells (.text (String.ofList text)) (q :: (cs ++ [q]))
  | name {n : String} : IsName n → Spells (.name n) n.toList
  | mark (m : Mark) : Spells (.mark m) m.text.toList

/-! ## What ends a token -/

/-- Nothing follows, or a blank. -/
def Ends (tail : List Char) : Prop := ∀ c ∈ tail.head?, Text.isBlank c = true

theorem not_isNamePart_of_isBlank {c : Char} (h : Text.isBlank c = true) :
    isNamePart c = false := by
  have hne : ∀ {d}, Text.isBlank d = false → c ≠ d := Text.ne_of_isBlank h
  simp [isNamePart, Text.not_isAlphanum_of_isBlank h, hne (by decide : Text.isBlank '_' = false),
    hne (by decide : Text.isBlank '$' = false)]

/-! ## Quoted texts -/

theorem readText_append {q : Char} {cs text : List Char} (hq : q ≠ '\\')
    (h : Quoted q cs text) (tail : List Char) (start column : Nat) :
    readText q start column (cs ++ q :: tail) = .ok ⟨text, cs.length + 1, tail⟩ := by
  induction h generalizing column with
  | nil => simp [readText, hq]
  | plain hc hslash _ ih => simp [readText, hc, hslash, ih, Except.map, Taken.cons]
  | letter hx hu _ ih => simp [readText, hx, hu, ih, Except.map, Taken.cons]
  | byte hv hchar _ ih =>
    simp [readText, numberedEscape, hv, hchar, ih, Except.map, Taken.cons, bind, Except.bind]
  | unit hv hchar _ ih =>
    simp [readText, numberedEscape, hv, hchar, ih, Except.map, Taken.cons, bind, Except.bind]

/-! ## Numbers -/

theorem takeFraction_append {fraction rest : List Char}
    (h : fraction = [] ∨ ∃ ds, fraction = '.' :: ds ∧ ∀ c ∈ ds, c.isDigit = true)
    (hdot : rest.head? ≠ some '.') (hdigit : ∀ c ∈ rest.head?, c.isDigit = false) :
    takeFraction (fraction ++ rest) = (fraction, rest) := by
  obtain rfl | ⟨ds, rfl, hds⟩ := h
  · cases rest with
    | nil => rfl
    | cons c cs =>
      have hc : c ≠ '.' := by simpa using hdot
      simp [takeFraction, hc]
  · obtain ⟨htake, hdrop⟩ := Text.takeWhile_dropWhile_append hds hdigit
    simp [takeFraction, htake, hdrop]

theorem takeExponent_append {exponent tail : List Char}
    (h : exponent = [] ∨ ∃ e sign d ds, exponent = e :: (sign ++ d :: ds) ∧ (e = 'e' ∨ e = 'E') ∧
      (sign = [] ∨ sign = ['+'] ∨ sign = ['-']) ∧ ∀ c ∈ d :: ds, c.isDigit = true)
    (htail : Ends tail) : takeExponent (exponent ++ tail) = (exponent, tail) := by
  obtain rfl | ⟨e, sign, d, ds, rfl, he, hsign, hds⟩ := h
  · cases tail with
    | nil => rfl
    | cons c cs =>
      have hc := htail c rfl
      have he : ¬(c = 'e' ∨ c = 'E') := by
        rintro (rfl | rfl) <;> exact absurd hc (by decide)
      simp [takeExponent, he]
  · obtain ⟨htake, hdrop⟩ := Text.takeWhile_dropWhile_append hds fun c hc =>
      Text.not_isDigit_of_isBlank (htail c hc)
    have hd : d.isDigit = true := hds d (by simp)
    have hplus : d ≠ '+' := by rintro rfl; exact absurd hd (by decide)
    have hminus : d ≠ '-' := by rintro rfl; exact absurd hd (by decide)
    simp only [List.cons_append] at htake hdrop
    rcases hsign with rfl | rfl | rfl <;>
      simp [takeExponent, he, htake, hdrop, hplus, hminus]

theorem takeLiteral_append {cs tail : List Char} (h : IsDecimal cs) (htail : Ends tail) :
    takeLiteral (cs ++ tail) = (cs, tail) := by
  obtain ⟨whole, fraction, exponent, rfl, hwhole, hfraction, hexponent, -⟩ := h
  have hend : ∀ c ∈ (exponent ++ tail).head?, c ≠ '.' ∧ c.isDigit = false := by
    obtain rfl | ⟨e, sign, d, ds, rfl, he, -, -⟩ := hexponent
    · exact fun c hc =>
        ⟨Text.ne_of_isBlank (htail c hc) (by decide), Text.not_isDigit_of_isBlank (htail c hc)⟩
    · rcases he with rfl | rfl <;> simp
  have hpoint : ∀ c ∈ (fraction ++ (exponent ++ tail)).head?, c.isDigit = false := by
    obtain rfl | ⟨ds, rfl, -⟩ := hfraction
    · exact fun c hc => (hend c hc).2
    · simp
  obtain ⟨htake, hdrop⟩ := Text.takeWhile_dropWhile_append hwhole hpoint
  have hfrac := takeFraction_append hfraction (fun hdot => (hend '.' hdot).1 rfl)
    fun c hc => (hend c hc).2
  simp only [takeLiteral, List.append_assoc, htake, hdrop, hfrac,
    takeExponent_append hexponent htail]

theorem ne_x_of_isDecimal {cs : List Char} (h : IsDecimal cs) : ∀ c ∈ cs, c ≠ 'x' ∧ c ≠ 'X' := by
  have hdigit : ∀ c : Char, c.isDigit = true → c ≠ 'x' ∧ c ≠ 'X' := by
    refine fun c hc => ⟨?_, ?_⟩ <;> rintro rfl <;> exact absurd hc (by decide)
  obtain ⟨whole, fraction, exponent, rfl, hwhole, hfraction, hexponent, -⟩ := h
  simp only [List.mem_append]
  rintro c (hc | hc | hc)
  · exact hdigit c (hwhole c hc)
  · obtain rfl | ⟨ds, rfl, hds⟩ := hfraction
    · simp at hc
    · rcases List.mem_cons.1 hc with rfl | hc
      · decide
      · exact hdigit c (hds c hc)
  · obtain rfl | ⟨e, sign, d, ds, rfl, he, hsign, hds⟩ := hexponent
    · simp at hc
    · rcases List.mem_cons.1 hc with rfl | hc
      · rcases he with rfl | rfl <;> decide
      · rcases List.mem_append.1 hc with hc | hc
        · rcases hsign with rfl | rfl | rfl <;> simp at hc <;> subst hc <;> decide
        · exact hdigit c (hds c hc)

theorem IsDecimal.ne_nil {cs : List Char} (h : IsDecimal cs) : cs ≠ [] := by
  obtain ⟨whole, fraction, exponent, rfl, -, -, -, hwhole | ⟨d, ds, rfl⟩⟩ := h
  · simp [hwhole]
  · simp

theorem hexDigits?_append {cs tail : List Char} (h : IsDecimal cs) (htail : Ends tail) :
    hexDigits? (cs ++ tail) = none := by
  have hsecond : ∀ a b rest, cs ++ tail = a :: b :: rest → b ≠ 'x' ∧ b ≠ 'X' := by
    intro a b rest heq
    match cs with
    | [] => exact absurd rfl h.ne_nil
    | [_] =>
      obtain ⟨-, rfl⟩ : _ ∧ tail = b :: rest := by simpa using heq
      have hb := htail b rfl
      exact ⟨Text.ne_of_isBlank hb (by decide), Text.ne_of_isBlank hb (by decide)⟩
    | _ :: d :: _ =>
      obtain ⟨-, rfl, -⟩ : _ ∧ d = b ∧ _ := by simpa using heq
      exact ne_x_of_isDecimal h d (by simp)
  unfold hexDigits?
  split
  · next ds heq => exact absurd rfl (hsecond _ _ _ heq).1
  · next ds heq => exact absurd rfl (hsecond _ _ _ heq).2
  · rfl

theorem readNumber_append {cs tail : List Char} {x : Float} (h : IsDecimal cs)
    (hx : Literal.toFloat? cs = some x) (htail : Ends tail) (column : Nat) :
    readNumber column (cs ++ tail) = .ok ⟨x, cs.length, tail⟩ := by
  have hname : (tail.take 1).any isNameStart = false := by
    cases tail with
    | nil => rfl
    | cons c tail =>
      have hpart := not_isNamePart_of_isBlank (htail c rfl)
      simp [isNamePart, Char.isAlphanum] at hpart
      simp [isNameStart, hpart]
  simp [readNumber, hexDigits?_append h htail, takeLiteral_append h htail, hname, hx]

/-! ## Marks -/

theorem readMark_append (m : Mark) {c : Char} {cs tail : List Char}
    (h : m.text.toList = c :: cs) (htail : Ends tail) (column : Nat) :
    readMark column c (cs ++ tail) = .ok ⟨m, m.text.toList.length, tail⟩ := by
  cases tail with
  | nil =>
    cases m <;> simp [Mark.text] at h <;> obtain ⟨rfl, rfl⟩ := h <;> rfl
  | cons d tail =>
    have hd := htail d rfl
    have heq := (Text.ne_of_isBlank hd (by decide : Text.isBlank '=' = false)).symm
    have hdot := (Text.ne_of_isBlank hd (by decide : Text.isBlank '.' = false)).symm
    have hquestion := (Text.ne_of_isBlank hd (by decide : Text.isBlank '?' = false)).symm
    have hdigit := Text.not_isDigit_of_isBlank hd
    cases m <;> simp [Mark.text] at h <;> obtain ⟨rfl, rfl⟩ := h <;>
      simp [readMark, Mark.all, Mark.text, List.isPrefixOf, heq, hdot, hquestion, hdigit] <;>
      exact ⟨rfl, rfl⟩

/-! ## Tokens -/

theorem not_isBlank_of_isNameStart {c : Char} (h : isNameStart c = true) :
    Text.isBlank c = false := by
  cases hb : Text.isBlank c with
  | false => rfl
  | true =>
    have hpart := not_isNamePart_of_isBlank hb
    simp_all [isNamePart, isNameStart, Char.isAlphanum]

theorem not_isDigit_of_isNameStart {c : Char} (h : isNameStart c = true) : c.isDigit = false := by
  cases hd : c.isDigit with
  | false => rfl
  | true =>
    have hunderscore : c ≠ '_' := by rintro rfl; exact absurd hd (by decide)
    have hdollar : c ≠ '$' := by rintro rfl; exact absurd hd (by decide)
    have halpha : c.isAlpha = true := by simpa [isNameStart, hunderscore, hdollar] using h
    have hletter := (Text.isAlpha_iff c).1 halpha
    have hrange := (Text.isDigit_iff c).1 hd
    omega

theorem startsNumber_of_isDecimal {c : Char} {cs : List Char} (h : IsDecimal (c :: cs))
    (tail : List Char) : startsNumber c (cs ++ tail) = true ∧ Text.isBlank c = false := by
  obtain ⟨whole, fraction, exponent, heq, hwhole, hfraction, -, hne⟩ := h
  cases whole with
  | cons d ds =>
    obtain ⟨rfl, -⟩ := List.cons.inj heq
    have hd := hwhole c (by simp)
    exact ⟨by simp [startsNumber, hd], Text.not_isBlank_of_isDigit hd⟩
  | nil =>
    obtain hne | ⟨d, ds, rfl⟩ := hne
    · exact absurd rfl hne
    · obtain hfraction | ⟨_, hds, hdigits⟩ := hfraction
      · cases hfraction
      · obtain ⟨-, rfl⟩ := List.cons.inj hds
        obtain ⟨rfl, rfl⟩ := List.cons.inj heq
        exact ⟨by simp [startsNumber, hdigits d (by simp)], by decide⟩

/-- A token is read where it is spelled and something ends it. -/
theorem readToken_append {t : Token} {lexeme tail : List Char} (h : Spells t lexeme)
    (htail : Ends tail) (column : Nat) : ∃ c cs, lexeme = c :: cs ∧ Text.isBlank c = false ∧
      readToken column c (cs ++ tail) = .ok ⟨t, lexeme.length, tail⟩ := by
  cases h with
  | number hdecimal hx =>
    obtain ⟨c, cs, rfl⟩ := List.exists_cons_of_ne_nil hdecimal.ne_nil
    obtain ⟨hstarts, hc⟩ := startsNumber_of_isDecimal hdecimal tail
    have hread := readNumber_append hdecimal hx htail column
    rw [List.cons_append] at hread
    exact ⟨c, cs, rfl, hc, by simp [readToken, hstarts, hread, bind, Except.bind]⟩
  | @text q cs text hq hquoted =>
    have hslash : q ≠ '\\' := by rcases hq with rfl | rfl <;> decide
    have hstarts : ∀ rest, startsNumber q rest = false := by
      rcases hq with rfl | rfl <;> simp [startsNumber]
    have hblank : Text.isBlank q = false := by rcases hq with rfl | rfl <;> decide
    have hread := readText_append hslash hquoted tail column (column + 1)
    refine ⟨q, _, rfl, hblank, ?_⟩
    simp [readToken, hstarts, hq, hread, bind, Except.bind]
  | @name n hn =>
    obtain ⟨c, cs, hname, hc, hcs⟩ := hn
    have hdigit := not_isDigit_of_isNameStart hc
    have hdot : c ≠ '.' := by rintro rfl; exact absurd hc (by decide)
    have hquote : ¬(c = '\'' ∨ c = '"') := by rintro (rfl | rfl) <;> exact absurd hc (by decide)
    obtain ⟨htake, hdrop⟩ := Text.takeWhile_dropWhile_append hcs fun d hd =>
      not_isNamePart_of_isBlank (htail d hd)
    have hofList : String.ofList (c :: cs) = n := by rw [← hname, String.ofList_toList]
    refine ⟨c, cs, hname, not_isBlank_of_isNameStart hc, ?_⟩
    simp [readToken, startsNumber, hdigit, hdot, hquote, hc, htake, hdrop, hname, hofList]
  | mark m =>
    obtain ⟨c, cs, hm⟩ : ∃ c cs, m.text.toList = c :: cs := by cases m <;> exact ⟨_, _, rfl⟩
    have hread := readMark_append m hm htail column
    refine ⟨c, cs, hm, ?_⟩
    have hdigit : ∀ d ∈ tail.head?, d.isDigit = false := fun d hd =>
      Text.not_isDigit_of_isBlank (htail d hd)
    have hother : Text.isBlank c = false ∧ startsNumber c (cs ++ tail) = false ∧
        ¬(c = '\'' ∨ c = '"') ∧ isNameStart c = false := by
      cases tail with
      | nil => cases m <;> simp [Mark.text] at hm <;> obtain ⟨rfl, rfl⟩ := hm <;> decide
      | cons d tail =>
        have hd := hdigit d rfl
        cases m <;> simp [Mark.text] at hm <;> obtain ⟨rfl, rfl⟩ := hm <;>
          simp [startsNumber, hd] <;> decide
    obtain ⟨hblank, hstarts, hquote, hname⟩ := hother
    exact ⟨hblank, by simp [readToken, hstarts, hquote, hname, hread, bind, Except.bind]⟩

/-- A text of some tokens with blanks between them, and perhaps around them. -/
inductive Spaced : List Token → List Char → Prop where
  | nil : Spaced [] []
  | blank {c : Char} {ts : List Token} {cs : List Char} : Text.isBlank c = true →
    Spaced ts cs → Spaced ts (c :: cs)
  | token {t : Token} {lexeme : List Char} {ts : List Token} {cs : List Char} :
    Spells t lexeme → Ends cs → Spaced ts cs → Spaced (t :: ts) (lexeme ++ cs)

theorem tokensFrom_spaced {ts : List Token} {cs : List Char} (h : Spaced ts cs) :
    ∀ fuel column : Nat, cs.length ≤ fuel →
      ∃ ps, tokensFrom fuel column cs = .ok ps ∧ ps.map Placed.token = ts := by
  induction h with
  | nil =>
    intro fuel column _
    cases fuel <;> exact ⟨[], rfl, rfl⟩
  | blank hc _ ih =>
    intro fuel column hfuel
    obtain ⟨fuel, rfl⟩ : ∃ k, fuel = k + 1 := ⟨fuel - 1, by simp at hfuel; omega⟩
    obtain ⟨ps, hps, hmap⟩ := ih fuel (column + 1) (by simpa using hfuel)
    exact ⟨ps, by simp [tokensFrom, hc, hps], hmap⟩
  | @token t lexeme ts tail hspells hends _ ih =>
    intro fuel column hfuel
    obtain ⟨c, cs, rfl, hc, hread⟩ := readToken_append hspells hends column
    obtain ⟨fuel, rfl⟩ : ∃ k, fuel = k + 1 := ⟨fuel - 1, by simp at hfuel; omega⟩
    obtain ⟨ps, hps, hmap⟩ := ih fuel (column + (c :: cs).length) (by simp at hfuel; omega)
    refine ⟨⟨t, column⟩ :: ps, ?_, congrArg (t :: ·) hmap⟩
    simp only [List.cons_append, tokensFrom, hc, hread]
    simp only [Bool.false_eq_true, if_false, bind, Except.bind, hps]

/-- **The tokens of a text** of tokens with blanks between them. -/
theorem tokenize_spaced {ts : List Token} {cs : List Char} (h : Spaced ts cs) :
    ∃ ps, tokenize cs = .ok ps ∧ ps.map Placed.token = ts :=
  tokensFrom_spaced h _ 1 (Nat.le_refl _)

end Logbook.Expr
