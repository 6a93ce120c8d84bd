import Logbook.Expr.Function
import Logbook.Proofs.Expr.Escapes
import Logbook.Proofs.Expr.Sound
import Logbook.Proofs.Number.Numeric

/-!
# Numbers in texts and in expressions

* `Takes`: what a reader takes off a text, `takes_readNumber`, `takes_readText`, `takes_readMark`:
  the readers, `readToken_cases`: which one a token comes from;
* `exists_read_of_mem`: each token was read where it is placed;
* **`toNumber_text`**: the texts that count as numbers, and the number tokens among them;
* **`not_toNumber_text`**: `0x+1` counts as a number.
-/

namespace Logbook.Expr

open Text (WritesHex NumeralHex)

/-! ## What readers take -/

/-- What a reader takes off a text are these characters. -/
structure Takes {α : Type} (cs lexeme : List Char) (t : Taken α) : Prop where
  chars : cs = lexeme ++ t.rest
  size : t.size = lexeme.length

theorem takeFraction_append_rest (cs : List Char) :
    (takeFraction cs).1 ++ (takeFraction cs).2 = cs := by
  unfold takeFraction
  split
  · exact congrArg ('.' :: ·) List.takeWhile_append_dropWhile
  · rfl

theorem filter_take_one_append (p : Char → Bool) (cs : List Char) :
    (cs.take 1).filter p ++ cs.drop ((cs.take 1).filter p).length = cs := by
  cases cs with
  | nil => rfl
  | cons c cs =>
    by_cases hc : p c = true <;> simp [hc]

theorem takeExponent_append_rest (cs : List Char) :
    (takeExponent cs).1 ++ (takeExponent cs).2 = cs := by
  unfold takeExponent
  split
  · next e rest =>
    split
    · dsimp only
      split
      · rfl
      · rw [List.cons_append, List.append_assoc, List.takeWhile_append_dropWhile,
          filter_take_one_append]
    · rfl
  · rfl

theorem takeLiteral_append_rest (cs : List Char) :
    (takeLiteral cs).1 ++ (takeLiteral cs).2 = cs := by
  simp only [takeLiteral, List.append_assoc]
  rw [takeExponent_append_rest, takeFraction_append_rest, List.takeWhile_append_dropWhile]

/-- A number is read of characters that count as that number, with digits alone behind `0x`. -/
theorem takes_readNumber {column : Nat} {cs : List Char} {t : Taken Float}
    (h : readNumber column cs = .ok t) :
    ∃ lexeme, Takes cs lexeme t ∧ CountsAs WritesHex lexeme t.result := by
  unfold readNumber at h
  split at h
  · next rest hrest =>
    obtain ⟨x, hx, rfl⟩ := hexDigits?_eq_some_iff.1 hrest
    dsimp only at h
    split at h
    · next n hn =>
      obtain rfl := Except.ok.inj h
      obtain ⟨hdigits, hlt⟩ := Text.readHex?_eq_some_iff.1 hn
      have hplus : (rest.takeWhile Text.isHex).head? ≠ some '+' := fun hplus =>
        absurd (List.all_eq_true.1 List.all_takeWhile '+' (List.mem_of_head? hplus)) (by decide)
      refine ⟨'0' :: x :: rest.takeWhile Text.isHex, ⟨?_, rfl⟩,
        .hexadecimal hx (hdigits.writesHex_iff.2 hplus) hlt⟩
      rw [List.cons_append, List.cons_append, List.takeWhile_append_dropWhile]
    · cases h
  · next hhex =>
    dsimp only at h
    split at h
    · cases h
    · split at h
      · next x hx =>
        obtain rfl := Except.ok.inj h
        obtain ⟨l, hl, rfl⟩ := Option.map_eq_some_iff.1 hx
        exact ⟨_, ⟨(takeLiteral_append_rest cs).symm, rfl⟩,
          .literal (Literal.read?_eq_some_iff.1 hl)⟩
      · cases h

theorem takes_readText {q : Char} {start column : Nat} {cs : List Char} {t : Taken (List Char)}
    (h : readText q start column cs = .ok t) : ∃ lexeme, Takes cs lexeme t := by
  obtain ⟨units, hunits⟩ := exists_divides_of_readText h
  refine ⟨units.flatMap Prod.fst ++ [q], ?_, ?_⟩
  · rw [hunits.chars, List.append_assoc, List.singleton_append]
  · rw [hunits.size, List.length_append, List.length_singleton]

theorem takes_readMark {column : Nat} {c : Char} {rest : List Char} {t : Taken Mark}
    (h : readMark column c rest = .ok t) : ∃ lexeme, Takes (c :: rest) lexeme t := by
  unfold readMark at h
  split at h
  · next m hm =>
    split at h
    · obtain rfl := Except.ok.inj h
      exact ⟨[c], rfl, rfl⟩
    · obtain rfl := Except.ok.inj h
      have hprefix := List.find?_some hm
      obtain ⟨tail, htail⟩ := List.isPrefixOf_iff_prefix.1 hprefix
      have hpos : 0 < m.text.length := by cases m <;> decide
      have hrest : rest.drop (m.text.length - 1) = tail := by
        rw [← List.drop_succ_cons (a := c), Nat.sub_add_cancel hpos, ← htail,
          ← String.length_toList, List.drop_left]
      exact ⟨m.text.toList, by rw [hrest, htail], String.length_toList.symm⟩
  · cases h

theorem readToken_cases {column : Nat} {c : Char} {rest : List Char} {t : Taken Token}
    (h : readToken column c rest = .ok t) :
    (∃ s, readNumber column (c :: rest) = .ok s ∧ t = ⟨.number s.result, s.size, s.rest⟩) ∨
    (∃ s, readText c column (column + 1) rest = .ok s ∧
      t = ⟨.text (String.ofList s.result), s.size + 1, s.rest⟩) ∨
    t = ⟨.name (String.ofList (c :: rest.takeWhile isNamePart)),
      (c :: rest.takeWhile isNamePart).length, rest.dropWhile isNamePart⟩ ∨
    ∃ s, readMark column c rest = .ok s ∧ t = ⟨.mark s.result, s.size, s.rest⟩ := by
  unfold readToken at h
  split at h
  · obtain ⟨s, hs, h⟩ := exists_of_bind_eq_ok h
    exact .inl ⟨s, hs, (Except.ok.inj h).symm⟩
  split at h
  · obtain ⟨s, hs, h⟩ := exists_of_bind_eq_ok h
    exact .inr (.inl ⟨s, hs, (Except.ok.inj h).symm⟩)
  split at h
  · exact .inr (.inr (.inl (Except.ok.inj h).symm))
  · obtain ⟨s, hs, h⟩ := exists_of_bind_eq_ok h
    exact .inr (.inr (.inr ⟨s, hs, (Except.ok.inj h).symm⟩))

theorem takes_readToken {column : Nat} {c : Char} {rest : List Char} {t : Taken Token}
    (h : readToken column c rest = .ok t) : ∃ lexeme, Takes (c :: rest) lexeme t := by
  obtain ⟨s, hs, rfl⟩ | ⟨s, hs, rfl⟩ | rfl | ⟨s, hs, rfl⟩ := readToken_cases h
  · obtain ⟨lexeme, ⟨hchars, hsize⟩, -⟩ := takes_readNumber hs
    exact ⟨lexeme, hchars, hsize⟩
  · obtain ⟨lexeme, hchars, hsize⟩ := takes_readText hs
    exact ⟨c :: lexeme, congrArg (c :: ·) hchars, congrArg (· + 1) hsize⟩
  · exact ⟨c :: rest.takeWhile isNamePart,
      congrArg (c :: ·) List.takeWhile_append_dropWhile.symm, rfl⟩
  · obtain ⟨lexeme, hchars, hsize⟩ := takes_readMark hs
    exact ⟨lexeme, hchars, hsize⟩

theorem readNumber_of_readToken {column : Nat} {c : Char} {rest : List Char} {t : Taken Token}
    {x : Float} (h : readToken column c rest = .ok t) (hx : t.result = .number x) :
    readNumber column (c :: rest) = .ok ⟨x, t.size, t.rest⟩ := by
  obtain ⟨s, hs, rfl⟩ | ⟨s, -, rfl⟩ | rfl | ⟨s, -, rfl⟩ := readToken_cases h
  · obtain rfl := Token.number.inj hx
    exact hs
  all_goals cases hx

/-! ## Runs of the tokenizer -/

theorem exists_read_of_mem {fuel column : Nat} {cs : List Char} {ps : List Placed}
    (h : tokensFrom fuel column cs = .ok ps) {p : Placed} (hp : p ∈ ps) :
    ∃ before c rest t, cs = before ++ c :: rest ∧ p.column = column + before.length ∧
      readToken p.column c rest = .ok t ∧ t.result = p.token := by
  -- what was taken for the first token is what the column of the others counts
  induction fuel generalizing column cs ps with
  | zero =>
    obtain rfl := Except.ok.inj h
    cases hp
  | succ fuel ih =>
    cases cs with
    | nil =>
      obtain rfl := Except.ok.inj h
      cases hp
    | cons c rest =>
      rw [tokensFrom] at h
      split at h
      · obtain ⟨before, d, rest', t, rfl, hcolumn, hread⟩ := ih h hp
        refine ⟨c :: before, d, rest', t, rfl, ?_, hread⟩
        rw [hcolumn, List.length_cons]
        omega
      · obtain ⟨t, ht, h⟩ := exists_of_bind_eq_ok h
        obtain ⟨more, hmore, h⟩ := exists_of_bind_eq_ok h
        obtain rfl := Except.ok.inj h
        obtain rfl | hp := List.mem_cons.1 hp
        · exact ⟨[], c, rest, t, rfl, rfl, ht, rfl⟩
        · obtain ⟨lexeme, hchars, hsize⟩ := takes_readToken ht
          obtain ⟨before, d, rest', t', hrest, hcolumn, hread⟩ := ih hmore hp
          refine ⟨lexeme ++ before, d, rest', t', ?_, ?_, hread⟩
          · rw [hchars, hrest, List.append_assoc]
          · rw [hcolumn, hsize, List.length_append]
            omega

/-! ## Numbers -/

theorem number_apply_text (cs : List Char) :
    Conversion.number.apply [.value (.str (String.ofList cs))] =
      .num (numericTrimmed (Text.trim cs)) := by
  change Value.num (numericTrimmed (Text.trim (String.ofList cs).toList)) = _
  rw [String.toList_ofList]

/-- A number token is what the conversion gives for the characters that it was read from. -/
theorem exists_lexeme_of_mem {cs : List Char} {ps : List Placed} (h : tokenize cs = .ok ps)
    {p : Placed} (hp : p ∈ ps) {x : Float} (hx : p.token = .number x) :
    ∃ before lexeme after, cs = before ++ (lexeme ++ after) ∧ p.column = before.length + 1 ∧
      readNumber p.column (lexeme ++ after) = .ok ⟨x, lexeme.length, after⟩ ∧
      Conversion.number.apply [.value (.str (String.ofList lexeme))] = .num x := by
  obtain ⟨before, c, rest, t, hcs, hcolumn, hread, ht⟩ := exists_read_of_mem h hp
  have hnumber := readNumber_of_readToken hread (ht.trans hx)
  obtain ⟨lexeme, ⟨hchars, hsize⟩, hcounts⟩ := takes_readNumber hnumber
  have hvalue : numericTrimmed lexeme = x :=
    (numericTrimmed_eq_iff.2 (countsAs_writesHex_iff.1 hcounts).1).1
  refine ⟨before, lexeme, t.rest, ?_, ?_, ?_, ?_⟩
  · rw [hcs, hchars]
  · omega
  · rw [← hchars, hnumber, hsize]
  · rw [number_apply_text, Text.trim_eq_self hcounts.not_isBlank, hvalue]

/-- **Which texts count as numbers.** A text counts as a number, other than NaN, just when what is
left of it without the blanks around it is one that does; with hexadecimal digits alone behind `0x`
these are the same texts but for those with a sign there. A number token is the number that the
conversion gives for its characters. -/
theorem toNumber_text (s source : String) :
    ((Value.str s).toNumber.isNaN = false ↔ ∃ x, CountsAs NumeralHex (Text.trim s.toList) x) ∧
    (∀ x, CountsAs WritesHex (Text.trim s.toList) x ↔
      CountsAs NumeralHex (Text.trim s.toList) x ∧ ¬SignedHex (Text.trim s.toList)) ∧
    ∀ ps, tokenize source.toList = .ok ps → ∀ p ∈ ps, ∀ x, p.token = .number x →
      ∃ before lexeme after, source.toList = before ++ (lexeme ++ after) ∧
        p.column = before.length + 1 ∧
        readNumber p.column (lexeme ++ after) = .ok ⟨x, lexeme.length, after⟩ ∧
        Conversion.number.apply [.value (.str (String.ofList lexeme))] = .num x := by
  refine ⟨⟨fun h => ⟨_, numericTrimmed_eq_iff.1 ⟨rfl, h⟩⟩, ?_⟩,
    fun _ => countsAs_writesHex_iff, fun _ h _ hp _ hx => exists_lexeme_of_mem h hp hx⟩
  rintro ⟨x, hx⟩
  obtain ⟨hcounts, hnan⟩ := numericTrimmed_eq_iff.2 hx
  change (numericTrimmed (Text.trim s.toList)).isNaN = false
  rw [hcounts, hnan]

theorem toNumber_text_hexadecimal :
    tokenize "-0x1F".toList = .ok [⟨.mark .minus, 1⟩, ⟨.number (Binary64.ofNat 31), 2⟩] ∧
    ∃ before lexeme after, "-0x1F".toList = before ++ (lexeme ++ after) ∧ 2 = before.length + 1 ∧
      readNumber 2 (lexeme ++ after) = .ok ⟨Binary64.ofNat 31, lexeme.length, after⟩ ∧
      Conversion.number.apply [.value (.str (String.ofList lexeme))] =
        .num (Binary64.ofNat 31) := by
  have htokens : tokenize "-0x1F".toList =
      .ok [⟨.mark .minus, 1⟩, ⟨.number (Binary64.ofNat 31), 2⟩] := rfl
  have hlast : (⟨.number (Binary64.ofNat 31), 2⟩ : Placed) ∈
      [⟨.mark .minus, 1⟩, ⟨.number (Binary64.ofNat 31), 2⟩] :=
    List.mem_cons_of_mem _ List.mem_cons_self
  exact ⟨htokens, (toNumber_text "31" "-0x1F").2.2 _ htokens _ hlast _ rfl⟩

/-- **A sign behind `0x` is passed over.** The text `0x+1` counts as one, although hexadecimal
digits have to follow. -/
theorem not_toNumber_text :
    ¬ ∀ s : String, (Value.str s).toNumber.isNaN = false ↔
      ∃ x, CountsAs WritesHex (Text.trim s.toList) x := by
  intro h
  have htrim : Text.trim "0x+1".toList = ['0', 'x', '+', '1'] := rfl
  have hdigit : WritesHex ['1'] 1 :=
    ⟨by decide, List.forall_mem_singleton.2 (by decide), rfl⟩
  have hcounts : CountsAs NumeralHex ['0', 'x', '+', '1'] (Binary64.ofNat 1) :=
    .hexadecimal (.inl rfl) (.inr ⟨['1'], rfl, hdigit⟩) (by decide)
  obtain ⟨hvalue, hnan⟩ := numericTrimmed_eq_iff.2 hcounts
  have hone : (Value.str "0x+1").toNumber.isNaN = false := by
    change (numericTrimmed (Text.trim "0x+1".toList)).isNaN = false
    rw [htrim, hvalue, hnan]
  obtain ⟨x, hx⟩ := (h "0x+1").1 hone
  exact (countsAs_writesHex_iff.1 hx).2 rfl

end Logbook.Expr
