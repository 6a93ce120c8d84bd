import Logbook.Expr.Compiled
import Logbook.Proofs.Expr.Balance
import Logbook.Proofs.Expr.Failures
import Logbook.Proofs.Expr.Numbers

/-!
# Where problems are placed

* `Places`: a result whose problem, if it has one, is placed between two columns;
* `places_readToken`, `places_tokensFrom`: the readers of tokens;
* `exists_mem_of_parse`: the parser places a problem at a token;
* **`column_of_compileError`**: a problem of a text is placed inside it, and at one of its tokens if
  it has tokens.
-/

namespace Logbook.Expr

/-- The problem of a result, if it has one, is placed from the column `first` on and before the
column `behind`. -/
def Places {α : Type} (first behind : Nat) (x : Except CompileError α) : Prop :=
  ∀ c problem, x = .error (.at c problem) → first ≤ c ∧ c < behind

namespace Places

variable {α β : Type} {first behind : Nat}

theorem ok (a : α) : Places first behind (.ok a) := nofun

theorem error {c : Nat} {problem : Problem} (h : first ≤ c) (h' : c < behind) :
    Places first behind (.error (.at c problem) : Except CompileError α) := by
  rintro _ _ ⟨⟩
  exact ⟨h, h'⟩

theorem map {x : Except CompileError α} (hx : Places first behind x) (f : α → β) :
    Places first behind (x.map f) := fun c problem h => hx c problem (error_of_map h)

theorem bind {x : Except CompileError α} {f : α → Except CompileError β}
    (hx : Places first behind x) (hf : ∀ a, x = .ok a → Places first behind (f a)) :
    Places first behind (x >>= f) := by
  intro c problem h
  rcases error_of_bind h with h | ⟨a, ha, h⟩
  · exact hx c problem h
  · exact hf a ha c problem h

theorem mono {first' behind' : Nat} {x : Except CompileError α} (hx : Places first behind x)
    (h : first' ≤ first) (h' : behind ≤ behind') : Places first' behind' x := by
  intro c problem he
  obtain ⟨hfirst, hbehind⟩ := hx c problem he
  exact ⟨h.trans hfirst, hbehind.trans_le h'⟩

end Places

/-! ## Readers -/

theorem places_numberedEscape (column : Nat) (digits : List Char) :
    Places column (column + 1) (numberedEscape column digits) := by
  unfold numberedEscape
  split
  · split
    · exact .ok _
    · exact .error (Nat.le_refl _) (Nat.lt_succ_self _)
  · exact .error (Nat.le_refl _) (Nat.lt_succ_self _)

/-- A quoted text has its problem at the quote that opens it, or at the letter of an escape. -/
theorem places_readText {quote : Char} {start column : Nat} {cs : List Char} (h : start < column) :
    Places start (column + cs.length) (readText quote start column cs) := by
  fun_induction readText quote start column cs with
  | case1 column => exact .error (Nat.le_refl _) (by omega)
  | case2 column => exact .error (Nat.le_refl _) (by omega)
  | case3 column a b rest ih =>
    simp only [List.length_cons]
    refine .bind ((places_numberedEscape _ _).mono (by omega) (by omega)) fun _ _ => .map ?_ _
    exact (ih (by omega)).mono (Nat.le_refl _) (by omega)
  | case4 column rest _ =>
    simp only [List.length_cons]
    exact .error (by omega) (by omega)
  | case5 column a b c d rest ih =>
    simp only [List.length_cons]
    refine .bind ((places_numberedEscape _ _).mono (by omega) (by omega)) fun _ _ => .map ?_ _
    exact (ih (by omega)).mono (Nat.le_refl _) (by omega)
  | case6 column rest _ =>
    simp only [List.length_cons]
    exact .error (by omega) (by omega)
  | case7 column c rest _ _ _ _ ih =>
    simp only [List.length_cons]
    exact .map ((ih (by omega)).mono (Nat.le_refl _) (by omega)) _
  | case8 => exact .ok _
  | case9 column c rest _ _ _ _ _ _ _ ih =>
    simp only [List.length_cons]
    exact .map ((ih (by omega)).mono (Nat.le_refl _) (by omega)) _

theorem places_readNumber {column : Nat} {cs : List Char} (h : cs ≠ []) :
    Places column (column + cs.length) (readNumber column cs) := by
  have hpos : 0 < cs.length := List.length_pos_of_ne_nil h
  unfold readNumber
  split
  · dsimp only
    split
    · exact .ok _
    · exact .error (Nat.le_refl _) (by omega)
  · dsimp only
    split
    · next hname =>
      have htaken := congrArg List.length (takeLiteral_append_rest cs)
      rw [List.length_append] at htaken
      have hrest : 0 < (takeLiteral cs).2.length := by
        cases hnil : (takeLiteral cs).2 with
        | nil => simp [hnil] at hname
        | cons => simp
      exact .error (by omega) (by omega)
    · split
      · exact .ok _
      · exact .error (Nat.le_refl _) (by omega)

theorem places_readMark (column : Nat) (c : Char) (rest : List Char) :
    Places column (column + (c :: rest).length) (readMark column c rest) := by
  unfold readMark
  split
  · split
    · exact .ok _
    · exact .ok _
  · exact .error (Nat.le_refl _) (by simp)

theorem places_readToken (column : Nat) (c : Char) (rest : List Char) :
    Places column (column + (c :: rest).length) (readToken column c rest) := by
  unfold readToken
  split
  · exact .bind (places_readNumber (List.cons_ne_nil c rest)) fun _ _ => .ok _
  split
  · refine .bind ?_ fun _ _ => .ok _
    refine (places_readText (Nat.lt_succ_self column)).mono (Nat.le_refl _) ?_
    rw [List.length_cons]
    omega
  split
  · exact .ok _
  · exact .bind (places_readMark column c rest) fun _ _ => .ok _

/-- The tokenizer places a problem at a character that it has not passed. -/
theorem places_tokensFrom (fuel column : Nat) (cs : List Char) :
    Places column (column + cs.length) (tokensFrom fuel column cs) := by
  induction fuel generalizing column cs with
  | zero => exact .ok _
  | succ fuel ih =>
    cases cs with
    | nil => exact .ok _
    | cons c rest =>
      rw [tokensFrom]
      split
      · exact (ih (column + 1) rest).mono (Nat.le_succ _) (by rw [List.length_cons]; omega)
      · refine .bind (places_readToken column c rest) fun t ht => .bind ?_ fun _ _ => .ok _
        -- what was taken and what is left are the characters that were there
        obtain ⟨lexeme, hchars, hsize⟩ := takes_readToken ht
        refine (ih (column + t.size) t.rest).mono (Nat.le_add_right _ _) ?_
        rw [hchars, hsize, List.length_append, Nat.add_assoc]

theorem isAllBlank_of_tokensFrom {fuel column : Nat} {cs : List Char} (hfuel : cs.length ≤ fuel)
    (h : tokensFrom fuel column cs = .ok []) : Text.isAllBlank cs = true := by
  induction fuel generalizing column cs with
  | zero =>
    obtain rfl := List.length_eq_zero_iff.1 (Nat.le_zero.1 hfuel)
    rfl
  | succ fuel ih =>
    cases cs with
    | nil => rfl
    | cons c rest =>
      rw [tokensFrom] at h
      split at h
      · next hc =>
        have hrest := ih (Nat.le_of_succ_le_succ hfuel) h
        simpa [Text.isAllBlank, hc] using hrest
      · obtain ⟨t, -, h⟩ := exists_of_bind_eq_ok h
        obtain ⟨more, -, h⟩ := exists_of_bind_eq_ok h
        cases h

/-! ## The parser -/

theorem columns_initial {ps : List Placed} (h : ps ≠ []) {c : Nat}
    (hc : c ∈ (State.initial ps).columns) : ∃ p ∈ ps, p.column = c := by
  rcases List.mem_append.1 hc with hc | hc
  · exact List.mem_map.1 hc
  · obtain rfl := List.mem_singleton.1 hc
    exact ⟨ps.getLast h, List.getLast_mem h,
      by simp [State.initial, List.getLast?_eq_getLast_of_ne_nil h]⟩

/-- The parser places a problem at a token. -/
theorem exists_mem_of_parse {ps : List Placed} (hps : ps ≠ []) {c : Nat} {problem : Problem}
    (h : parse ps = .error (.at c problem)) : ∃ p ∈ ps, p.column = c := by
  obtain ⟨-, -, hpast, hcolumn⟩ := Recorded.keeps_conditional (callsFor ps.length) (.initial ps)
    (Nat.le_refl _) (Nat.zero_le maxDepth)
  rw [Recorded.result_conditional] at hpast hcolumn
  rcases error_of_bind h with h | ⟨⟨e, s⟩, hs, h⟩
  · exact columns_initial hps (hcolumn c problem h)
  · dsimp only at h
    split at h
    · cases h
    · have hc := State.mem_columns_of_unexpected (Except.error.inj h)
      exact columns_initial hps ((hpast e s hs).columns_subset hc)

theorem column_of_mem_tokenize {cs : List Char} {ps : List Placed} (h : tokenize cs = .ok ps)
    {p : Placed} (hp : p ∈ ps) : 1 ≤ p.column ∧ p.column ≤ cs.length := by
  obtain ⟨before, c, rest, -, rfl, hcolumn, -⟩ := exists_read_of_mem h hp
  rw [List.length_append, List.length_cons]
  omega

/-- **A problem is placed inside the text.** Where a text has a problem, its column is that of one
of the characters of the text, and if the text has tokens, that of one of these. -/
theorem column_of_compileError {source : String} {column : Nat} {problem : Problem}
    (h : (compile source).compileError? = some (.at column problem)) :
    1 ≤ column ∧ column ≤ source.length ∧
      ∀ ps, tokenize source.toList = .ok ps → ∃ p ∈ ps, p.column = column := by
  rw [← String.length_toList]
  have hprogram : (compile source).program = .error (.at column problem) := by
    unfold Compiled.compileError? at h
    split at h
    · next e he => rw [he, Option.some.inj h]
    · cases h
  cases hblank : Text.isAllBlank source.toList with
  | true =>
    simp only [compile, hblank, if_true] at hprogram
    cases hprogram
  | false =>
    simp only [compile, hblank] at hprogram
    rcases error_of_bind hprogram with htokens | ⟨ps, hps, hparse⟩
    · obtain ⟨hfirst, hbehind⟩ := places_tokensFrom _ _ _ column problem htokens
      refine ⟨hfirst, by omega, fun ps hps => ?_⟩
      cases htokens.symm.trans hps
    · have hne : ps ≠ [] := by
        rintro rfl
        exact absurd (isAllBlank_of_tokensFrom (Nat.le_refl _) hps) (by simp [hblank])
      rcases error_of_bind hparse with hparse | ⟨e, -, he⟩
      · obtain ⟨p, hp, rfl⟩ := exists_mem_of_parse hne hparse
        obtain ⟨hfirst, hlast⟩ := column_of_mem_tokenize hps hp
        refine ⟨hfirst, hlast, fun qs hqs => ?_⟩
        obtain rfl := Except.ok.inj (hps.symm.trans hqs)
        exact ⟨p, hp, rfl⟩
      · cases he

/-- At the end of `'é' ==` something is missing: that is said of its last token, which is two
characters long. -/
theorem column_of_compileError_end :
    (compile "'é' ==").compileError? = some (.at 5 .unexpectedEnd) ∧
    tokenize "'é' ==".toList = .ok [⟨.text "é", 1⟩, ⟨.mark .eq, 5⟩] ∧
    1 ≤ 5 ∧ 5 ≤ "'é' ==".length ∧
    ∃ p ∈ ([⟨.text "é", 1⟩, ⟨.mark .eq, 5⟩] : List Placed), p.column = 5 := by
  have herror : (compile "'é' ==").compileError? = some (.at 5 .unexpectedEnd) := by
    decide +kernel
  have htokens : tokenize "'é' ==".toList = .ok [⟨.text "é", 1⟩, ⟨.mark .eq, 5⟩] := rfl
  obtain ⟨hfirst, hlast, hmem⟩ := column_of_compileError herror
  exact ⟨herror, htokens, hfirst, hlast, hmem _ htokens⟩

end Logbook.Expr
