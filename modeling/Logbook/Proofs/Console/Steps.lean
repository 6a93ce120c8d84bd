import Mathlib.Data.Bool.AllAny
import Logbook.Proofs.Console.Tokens

/-!
# The steps of relaxed reading, token by token

* `step_maskColons`, `step_quoteNames`, `step_dropUndefined`, `step_dropTrailingCommas`,
  `step_unmaskColons`: each step changes the look of each token;
* **`tidy_of_printed`**: all steps together.
-/

namespace Logbook.Console

open Relaxed

/-! ## Beginnings -/

theorem head_of_ends {l : Look} (hl : l.trailing = true) {ts : List Tok}
    (h : ∀ t ∈ ts.head?, t.Ends) : ∀ c ∈ (text l ts).head?, c ∈ [',', ']', '\x7d'] := by
  cases ts with
  | nil =>
    rintro c ⟨⟩
  | cons t ts =>
    have ht : t.Ends := h t rfl
    cases t with
    | comma b =>
      simp only [text_cons, Tok.text, hl]
      simp
    | mark c =>
      rintro _ ⟨⟩
      rcases ht with rfl | rfl <;> decide
    | word | item | member | key | missing => exact ht.elim

theorem isNameChar_or_minus_of_isWord {cs : List Char} (h : IsWord cs) :
    ∀ c ∈ cs, isNameChar c = true ∨ c = '-' := by
  obtain ⟨⟨sign, w, rfl, hsign, hw⟩, -⟩ := h
  intro c hc
  rcases List.mem_append.1 hc with hc | hc
  · rcases hsign with rfl | rfl
    · cases hc
    · exact .inr (List.mem_singleton.1 hc)
  · exact .inl (hw c hc)

theorem IsWord.not_mem {cs : List Char} (h : IsWord cs) {c : Char} (hname : isNameChar c = false)
    (hminus : c ≠ '-') : c ∉ cs := by
  intro hc
  rcases isNameChar_or_minus_of_isWord h c hc with hc | hc
  · rw [hname] at hc
    cases hc
  · exact hminus hc

theorem BareName.not_mem {k : List Char} (h : BareName k) {c : Char}
    (hname : isNameChar c = false) : c ∉ k := by
  intro hc
  rw [h.2 c hc] at hname
  cases hname

theorem not_isBlank_of_isNameChar {c : Char} (h : isNameChar c = true) :
    Text.isBlank c = false := by
  refine Bool.eq_false_iff.2 fun hb => ?_
  rw [not_isNameChar_of_isBlank hb] at h
  cases h

/-- Behind a name stands no quote and no blank. -/
theorem exists_of_begins {l : Look} {t : Tok} (hok : t.Ok) (h : t.Begins) (ts : List Tok) :
    ∃ c cs, text l (t :: ts) = c :: cs ∧ Text.isBlank c = false ∧ c ≠ '"' ∧ c ≠ 'u' := by
  cases t with
  | word cs =>
    obtain ⟨c, ds, rfl, hu⟩ := hok.head
    have hc : isNameChar c = true ∨ c = '-' :=
      isNameChar_or_minus_of_isWord hok c List.mem_cons_self
    refine ⟨c, ds ++ text l ts, rfl, ?_, ?_, hu⟩
    · rcases hc with hc | rfl
      · exact not_isBlank_of_isNameChar hc
      · rfl
    · rintro rfl
      rcases hc with hc | hc <;> cases hc
  | mark c =>
    refine ⟨c, text l ts, rfl, ?_⟩
    rcases h with rfl | rfl <;> decide
  | comma | item | member | key | missing => exact h.elim

/-! ## Masking colons -/

theorem maskColons_append {a : List Char} (h : ':' ∉ a) (cs : List Char) :
    maskColons (a ++ cs) = a ++ maskColons cs := by
  induction a with
  | nil => rfl
  | cons c a ih =>
    obtain ⟨hc, ha⟩ := List.ne_and_not_mem_of_not_mem_cons h
    rw [List.cons_append, maskColons_cons_of_ne (Ne.symm hc), ih ha, List.cons_append]

theorem quotedValue?_eq_none {cs : List Char}
    (h : ∀ rest, cs.dropWhile Text.isBlank ≠ '"' :: rest) : quotedValue? cs = none := by
  unfold quotedValue?
  split
  · next heq => exact absurd heq (h _)
  · rfl

theorem dropWhile_isBlank_append {s : List Char} (h : s.all Text.isBlank = false) (cs : List Char) :
    ∃ c ds, c ∈ s ∧ (s ++ cs).dropWhile Text.isBlank = c :: ds := by
  induction s with
  | nil => cases h
  | cons c s ih =>
    by_cases hc : Text.isBlank c = true
    · rw [List.all_cons, hc, Bool.true_and] at h
      obtain ⟨d, ds, hd, hdrop⟩ := ih h
      rw [List.cons_append, List.dropWhile_cons_of_pos hc]
      exact ⟨d, ds, List.mem_cons_of_mem c hd, hdrop⟩
    · rw [List.cons_append, List.dropWhile_cons_of_neg hc]
      exact ⟨c, _, List.mem_cons_self, rfl⟩

/-- No colon of a calm text is taken for one in front of a quoted value. -/
theorem maskColons_calm {s : List Char} (hquote : '"' ∉ s) (hcalm : calmText s = true)
    (cs : List Char) : maskColons (s ++ '"' :: cs) = s ++ '"' :: maskColons cs := by
  induction s with
  | nil => exact maskColons_cons_of_ne (by decide) cs
  | cons c s ih =>
    have hs := List.not_mem_of_not_mem_cons hquote
    obtain ⟨hc, hs'⟩ := Bool.and_eq_true_iff.1 hcalm
    by_cases hcolon : c = ':'
    · subst hcolon
      -- a character of the text stands between this colon and the quote behind the text
      have hblank : s.all Text.isBlank = false := by simpa using hc
      obtain ⟨d, ds, hd, hdrop⟩ := dropWhile_isBlank_append hblank ('"' :: cs)
      have hnone : quotedValue? (s ++ '"' :: cs) = none := by
        refine quotedValue?_eq_none fun rest heq => ?_
        rw [hdrop] at heq
        obtain ⟨rfl, -⟩ := List.cons.inj heq
        exact hs hd
      rw [List.cons_append, maskColons_colon_of_none hnone, ih hs hs', List.cons_append]
    · rw [List.cons_append, maskColons_cons_of_ne hcolon, ih hs hs', List.cons_append]

theorem maskColons_key {k : List Char} (hk : BareName k) {c : Char} {cs ds : List Char}
    (hcs : ds = c :: cs) (hblank : Text.isBlank c = false) (hquote : c ≠ '"') :
    maskColons (k ++ ':' :: ' ' :: ds) = k ++ ':' :: ' ' :: maskColons ds := by
  subst hcs
  have hdrop : (' ' :: c :: cs).dropWhile Text.isBlank = c :: cs := by
    rw [List.dropWhile_cons_of_pos rfl, List.dropWhile_cons_of_neg (Bool.eq_false_iff.1 hblank)]
  have hnone : quotedValue? (' ' :: c :: cs) = none := by
    refine quotedValue?_eq_none fun rest heq => ?_
    rw [hdrop] at heq
    exact hquote (List.cons.inj heq).1
  rw [maskColons_append (hk.not_mem rfl), maskColons_colon_of_none hnone,
    maskColons_cons_of_ne (by decide)]

theorem step_maskColons : Step maskColons printed maskedLook := by
  rintro t ts ⟨hok, hfollows, hts⟩
  cases t with
  | mark c => exact maskColons_cons_of_ne (hok.mark_ne (by decide)) _
  | comma b =>
    rw [text_comma rfl, text_comma rfl]
    exact maskColons_cons_of_ne (by decide) _
  | word cs => exact maskColons_append (hok.not_mem rfl (by decide)) _
  | item s =>
    rw [text_item_append, text_item_append, maskColons_cons_of_ne (by decide)]
    exact congrArg _ (maskColons_calm hok.1 hok.2 _)
  | member k s =>
    have hquoted : quotedValue? (' ' :: '"' :: (printed.member s ++ '"' :: text printed ts)) =
        some (s, text printed ts) :=
      quotedValue?_append (b := [' ']) (List.all_eq_true.1 rfl) hok.2 _
    rw [text_member_append, text_member_append, printed_key_append,
      maskColons_append (hok.1.not_mem rfl), maskColons_colon_of_quoted hquoted]
    simp [maskedLook, printed]
  | key k =>
    obtain ⟨t, us, rfl, hbegins⟩ := hfollows
    obtain ⟨c, cs, htext, hblank, hquote, -⟩ := exists_of_begins (l := printed) hts.1 hbegins us
    rw [Tok.text, printed_key_append, maskColons_key hok htext hblank hquote]
    exact (printed_key_append k _).symm
  | missing k c =>
    have hcomma : ':' ∉ if c then [','] else [] := by
      cases c <;> decide
    have hword : undefinedWord ++ ((if c then [','] else []) ++ text printed ts) =
        'u' :: (undefinedWord.tail ++ ((if c then [','] else []) ++ text printed ts)) := rfl
    rw [text_missing_append rfl, text_missing_append rfl, printed_key_append,
      maskColons_key hok hword rfl (by decide), maskColons_append (by decide),
      maskColons_append hcomma]
    exact (printed_key_append k _).symm

/-! ## Quoting names -/

/-- No name stands in front of a colon. -/
def NoKey (s : List Char) : Prop := ∀ x c y, s = x ++ c :: ':' :: y → isNameChar c = false

theorem NoKey.of_append {a b : List Char} (h : NoKey (a ++ b)) : NoKey b := by
  rintro x c y rfl
  exact h (a ++ x) c y (List.append_assoc _ _ _).symm

theorem NoKey.of_not_mem {s : List Char} (h : ':' ∉ s) : NoKey s := by
  rintro x c y rfl
  simp at h

theorem NoKey.of_calmText {s : List Char} (h : calmText s = true) : NoKey s := by
  rintro x c y rfl
  induction x with
  | nil =>
    obtain ⟨hc, -⟩ := Bool.and_eq_true_iff.1 h
    by_cases hcolon : c = ':'
    · subst hcolon
      rfl
    · simpa [hcolon] using hc
  | cons d x ih => exact ih (Bool.and_eq_true_iff.1 h).2

/-- What no key is found in stays, if none begins or ends behind it. -/
theorem quoteNames_append {s : List Char} (h : NoKey s) {cs : List Char}
    (hcs : ∀ c ∈ cs.head?, isNameChar c = false ∧ c ≠ ':') :
    quoteNames (s ++ cs) = s ++ quoteNames cs := by
  -- word by word: a run of name characters, the character behind it and the rest
  induction hlen : s.length using Nat.strongRecOn generalizing s with
  | ind n ih =>
    have hs := (List.takeWhile_append_dropWhile (p := isNameChar) (l := s)).symm
    have hword : ∀ c ∈ s.takeWhile isNameChar, isNameChar c = true :=
      List.all_eq_true.1 List.all_takeWhile
    cases hrest : s.dropWhile isNameChar with
    | nil =>
      rw [hrest, List.append_nil] at hs
      rw [hs]
      refine quoteNames_word hword (fun c hc => (hcs c hc).1) ?_
      rintro ds rfl
      exact (hcs ':' rfl).2 rfl
    | cons d rest =>
      have hd : isNameChar d = false := by
        have hhead := List.head?_dropWhile_not isNameChar s
        rw [hrest] at hhead
        simpa using hhead
      rw [hrest] at hs
      have hlt : rest.length < n := by
        rw [← hlen, hs, List.length_append, List.length_cons]
        omega
      have hrest' : NoKey rest := by
        rw [hs, List.append_cons] at h
        exact h.of_append
      have hskip : quoteNames (d :: (rest ++ cs)) = d :: (rest ++ quoteNames cs) := by
        rw [quoteNames_cons_of_not hd, ih _ hlt hrest' rfl]
      rcases List.eq_nil_or_concat (s.takeWhile isNameChar) with hnil | ⟨x, c, hconcat⟩
      · rw [hnil, List.nil_append] at hs
        rw [hs]
        exact hskip
      · have hcolon : d ≠ ':' := by
          rintro rfl
          have hc := hword c (by simp [hconcat])
          rw [h x c rest (by rw [hs, hconcat]; simp)] at hc
          cases hc
        rw [hs, List.append_assoc, List.cons_append, quoteNames_word hword ?_ ?_, hskip]
        · rw [List.append_assoc, List.cons_append]
        · rintro _ ⟨⟩
          exact hd
        · rintro ds heq
          exact hcolon (List.cons.inj heq).1

theorem colon_not_mem_masked (s : List Char) : ':' ∉ masked s := by
  unfold masked
  rw [List.mem_flatMap]
  rintro ⟨c, -, hc⟩
  split at hc
  · revert hc
    decide
  · next hne => exact hne (List.mem_singleton.1 hc).symm

theorem quote_not_mem_masked {s : List Char} (h : '"' ∉ s) : '"' ∉ masked s := by
  unfold masked
  rw [List.mem_flatMap]
  rintro ⟨c, hmem, hc⟩
  split at hc
  · revert hc
    decide
  · rw [← List.mem_singleton.1 hc] at hmem
    exact h hmem

theorem not_isNameChar_of_mark {c : Char} (h : (Tok.mark c).Ok) : isNameChar c = false := by
  have hall : ∀ d ∈ ['[', ']', '\x7b', '\x7d', ' '], isNameChar d = false :=
    List.all_iff_forall_prop.1 (by decide)
  exact hall c h

theorem ends_of_head {cs : List Char} (h : ∀ c ∈ cs.head?, c ∈ [',', ']', '\x7d']) :
    ∀ c ∈ cs.head?, isNameChar c = false ∧ c ≠ ':' := by
  have hall : ∀ d ∈ [',', ']', '\x7d'], isNameChar d = false ∧ d ≠ ':' :=
    List.all_iff_forall_prop.1 (by decide)
  exact fun c hc => hall c (h c hc)

theorem ends_quote (cs : List Char) :
    ∀ c ∈ ('"' :: cs).head?, isNameChar c = false ∧ c ≠ ':' := by
  rintro _ ⟨⟩
  decide

theorem Tok.Follows.head_of_missing {k : List Char} {ts : List Tok}
    (h : (Tok.missing k false).Follows ts) : ∀ t ∈ ts.head?, t.Ends := by
  intro t ht
  obtain ⟨-, -, hends⟩ := h t ht
  exact hends

theorem step_quoteNames : Step quoteNames maskedLook quotedLook := by
  rintro t ts ⟨hok, hfollows, hts⟩
  cases t with
  | mark c => exact quoteNames_cons_of_not (not_isNameChar_of_mark hok) _
  | comma b =>
    rw [text_comma rfl, text_comma rfl]
    exact quoteNames_cons_of_not rfl _
  | word cs =>
    exact quoteNames_append (.of_not_mem (hok.not_mem rfl (by decide)))
      (ends_of_head (head_of_ends rfl hfollows))
  | item s =>
    rw [text_item_append, text_item_append, quoteNames_cons_of_not rfl]
    refine congrArg _ ((quoteNames_append (.of_calmText hok.2) (ends_quote _)).trans ?_)
    rw [quoteNames_cons_of_not rfl]
    rfl
  | member k s =>
    have hkey : maskedLook.key k = printed.key k := rfl
    have hmasked : NoKey (maskedLook.member s) := .of_not_mem (colon_not_mem_masked s)
    rw [text_member_append, text_member_append, hkey, printed_key_append, quotedLook_key_append,
      quoteNames_key hok.1.1 hok.1.2, quoteNames_cons_of_not rfl, quoteNames_cons_of_not rfl,
      quoteNames_append hmasked (ends_quote _), quoteNames_cons_of_not rfl]
    simp [quotedLook]
  | key k =>
    have hkey : maskedLook.key k = printed.key k := rfl
    rw [Tok.text, Tok.text, hkey, printed_key_append, quotedLook_key_append,
      quoteNames_key hok.1 hok.2, quoteNames_cons_of_not rfl]
    simp
  | missing k c =>
    have hkey : maskedLook.key k = printed.key k := rfl
    have hnokey : NoKey undefinedWord := .of_not_mem (by decide)
    rw [text_missing_append rfl, text_missing_append rfl, hkey, printed_key_append,
      quotedLook_key_append, quoteNames_key hok.1 hok.2, quoteNames_cons_of_not rfl]
    cases c with
    | true =>
      rw [quoteNames_append hnokey, if_pos rfl, List.singleton_append, List.singleton_append,
        quoteNames_cons_of_not rfl]
      · simp
      · rintro _ ⟨⟩
        decide
    | false =>
      rw [quoteNames_append hnokey]
      · simp
      · exact ends_of_head (head_of_ends rfl hfollows.head_of_missing)

/-! ## Leaving out members without a value -/

theorem dropUndefined_append {a : List Char} (h : '"' ∉ a) (cs : List Char) :
    dropUndefined (a ++ cs) = a ++ dropUndefined cs := by
  induction a with
  | nil => rfl
  | cons c a ih =>
    obtain ⟨hc, ha⟩ := List.ne_and_not_mem_of_not_mem_cons h
    rw [List.cons_append, dropUndefined_cons_of_ne (Ne.symm hc), ih ha, List.cons_append]

theorem afterUndefined?_of_head {cs : List Char} (h : ∀ c ∈ cs.head?, isNameChar c = false) :
    afterUndefined? cs = none := by
  have htake : ([] ++ cs).takeWhile isNameChar = [] :=
    (Text.takeWhile_dropWhile_append (by rintro _ ⟨⟩) h).1
  rw [List.nil_append] at htake
  unfold afterUndefined?
  rw [htake]
  rfl

theorem afterUndefined?_of_ne {cs : List Char}
    (h : ∀ rest, cs.dropWhile isNameChar ≠ '"' :: ':' :: rest) : afterUndefined? cs = none := by
  unfold afterUndefined?
  split
  · rfl
  · split
    · next heq => exact absurd heq (h _)
    · rfl

theorem dropUndefined_quoted {s cs : List Char} (hs : '"' ∉ s)
    (hcs : ∀ c ∈ cs.head?, isNameChar c = false ∧ c ≠ ':') :
    dropUndefined ('"' :: (s ++ '"' :: cs)) = '"' :: (s ++ '"' :: dropUndefined cs) := by
  -- a name that began at the first quote would end at the second, but no colon stands there
  have hopen : afterUndefined? (s ++ '"' :: cs) = none := by
    refine afterUndefined?_of_ne fun rest heq => ?_
    have hsplit := (List.takeWhile_append_dropWhile (p := isNameChar) (l := s)).symm
    have hword : ∀ c ∈ s.takeWhile isNameChar, isNameChar c = true :=
      List.all_eq_true.1 List.all_takeWhile
    cases hdrop : s.dropWhile isNameChar with
    | nil =>
      rw [hdrop, List.append_nil] at hsplit
      have hend : ∀ c ∈ ('"' :: cs).head?, isNameChar c = false :=
        fun c hc => (ends_quote cs c hc).1
      rw [hsplit, (Text.takeWhile_dropWhile_append hword hend).2] at heq
      obtain ⟨-, rfl⟩ := List.cons.inj heq
      exact (hcs ':' rfl).2 rfl
    | cons d r =>
      have hd : ∀ c ∈ (d :: (r ++ '"' :: cs)).head?, isNameChar c = false := by
        rintro _ ⟨⟩
        have hhead := List.head?_dropWhile_not isNameChar s
        rw [hdrop] at hhead
        simpa using hhead
      rw [hdrop] at hsplit
      rw [hsplit, List.append_assoc, List.cons_append,
        (Text.takeWhile_dropWhile_append hword hd).2] at heq
      obtain ⟨rfl, -⟩ := List.cons.inj heq
      refine hs ?_
      rw [hsplit]
      simp
  have hclose : afterUndefined? cs = none := afterUndefined?_of_head fun c hc => (hcs c hc).1
  rw [dropUndefined_quote_of_none hopen, dropUndefined_append hs,
    dropUndefined_quote_of_none hclose]

theorem dropWhile_bareName {k : List Char} (hk : BareName k) (cs : List Char) :
    (k ++ '"' :: cs).takeWhile isNameChar = k ∧ (k ++ '"' :: cs).dropWhile isNameChar = '"' :: cs :=
  Text.takeWhile_dropWhile_append hk.2 fun c hc => (ends_quote cs c hc).1

theorem dropWhile_isBlank_spaces (cs : List Char) :
    (' ' :: ' ' :: cs).dropWhile Text.isBlank = cs.dropWhile Text.isBlank := by
  rw [List.dropWhile_cons_of_pos rfl, List.dropWhile_cons_of_pos rfl]

theorem dropUndefined_key {k : List Char} (hk : BareName k) {c : Char} {cs ds : List Char}
    (hcs : cs = c :: ds) (hblank : Text.isBlank c = false) (hu : c ≠ 'u') :
    dropUndefined ('"' :: (k ++ '"' :: ':' :: ' ' :: ' ' :: cs)) =
      '"' :: (k ++ '"' :: ':' :: ' ' :: ' ' :: dropUndefined cs) := by
  have hdrop : cs.dropWhile Text.isBlank = cs := by
    rw [hcs, List.dropWhile_cons_of_neg (Bool.eq_false_iff.1 hblank)]
  have hpre : undefinedWord.isPrefixOf cs = false := by
    rw [hcs]
    simp [undefinedWord, List.isPrefixOf, Ne.symm hu]
  have hopen : afterUndefined? (k ++ '"' :: ':' :: ' ' :: ' ' :: cs) = none := by
    obtain ⟨htake, hname⟩ := dropWhile_bareName hk (':' :: ' ' :: ' ' :: cs)
    simp only [afterUndefined?, htake, hname, dropWhile_isBlank_spaces, hdrop, hpre,
      Bool.false_eq_true, if_false, ite_self]
  have hclose : afterUndefined? (':' :: ' ' :: ' ' :: cs) = none := by
    refine afterUndefined?_of_head ?_
    rintro _ ⟨⟩
    rfl
  rw [dropUndefined_quote_of_none hopen, dropUndefined_append (hk.not_mem rfl),
    dropUndefined_quote_of_none hclose, dropUndefined_cons_of_ne (by decide),
    dropUndefined_cons_of_ne (by decide), dropUndefined_cons_of_ne (by decide)]

/-- A name without a value goes, together with one comma. -/
theorem dropUndefined_missing {k : List Char} (hk : BareName k) {c : Bool} {cs : List Char}
    (hcs : c = false → dropComma cs = cs) :
    dropUndefined ('"' :: (k ++ '"' :: ':' :: ' ' :: ' ' ::
      (undefinedWord ++ ((if c then [','] else []) ++ cs)))) = dropUndefined cs := by
  have hafter : afterUndefined? (k ++ '"' :: ':' :: ' ' :: ' ' ::
      (undefinedWord ++ ((if c then [','] else []) ++ cs))) = some cs := by
    obtain ⟨htake, hname⟩ := dropWhile_bareName hk
      (':' :: ' ' :: ' ' :: (undefinedWord ++ ((if c then [','] else []) ++ cs)))
    have hdrop : (undefinedWord ++ ((if c then [','] else []) ++ cs)).dropWhile Text.isBlank =
        undefinedWord ++ ((if c then [','] else []) ++ cs) := rfl
    have hpre :
        undefinedWord.isPrefixOf (undefinedWord ++ ((if c then [','] else []) ++ cs)) = true :=
      List.isPrefixOf_iff_prefix.2 (List.prefix_append _ _)
    have hcomma : dropComma ((if c then [','] else []) ++ cs) = cs := by
      cases c with
      | true => rfl
      | false => exact hcs rfl
    have hne : k.isEmpty = false := by
      rw [List.isEmpty_eq_false_iff]
      exact hk.1
    simp only [afterUndefined?, htake, hname, dropWhile_isBlank_spaces, hdrop, hpre, hne,
      Bool.false_eq_true, if_false, if_true, List.drop_left, hcomma]
  exact dropUndefined_quote_of_some hafter

theorem dropComma_of_ends {ts : List Tok} {k : List Char} (h : (Tok.missing k false).Follows ts)
    (l : Look) : dropComma (text l ts) = text l ts := by
  cases ts with
  | nil => rfl
  | cons t ts =>
    obtain ⟨c, rfl, hc⟩ := h t rfl
    rcases hc with rfl | rfl <;> rfl

theorem step_dropUndefined : Step dropUndefined quotedLook definedLook := by
  rintro t ts ⟨hok, hfollows, hts⟩
  cases t with
  | mark c => exact dropUndefined_cons_of_ne (hok.mark_ne (by decide)) _
  | comma b =>
    rw [text_comma rfl, text_comma rfl]
    exact dropUndefined_cons_of_ne (by decide) _
  | word cs => exact dropUndefined_append (hok.not_mem rfl (by decide)) _
  | item s =>
    rw [text_item_append, text_item_append]
    exact dropUndefined_quoted hok.1 (ends_of_head (head_of_ends rfl hfollows))
  | member k s =>
    have hmasked : '"' ∉ quotedLook.member s := quote_not_mem_masked hok.2
    have hkey : definedLook.key k = quotedLook.key k := rfl
    rw [text_member_append, text_member_append, hkey, quotedLook_key_append, quotedLook_key_append,
      dropUndefined_key hok.1 rfl rfl (by decide),
      dropUndefined_quoted hmasked (ends_of_head (head_of_ends rfl hfollows))]
    rfl
  | key k =>
    obtain ⟨t, us, rfl, hbegins⟩ := hfollows
    obtain ⟨c, cs, htext, hblank, -, hu⟩ := exists_of_begins (l := quotedLook) hts.1 hbegins us
    have hkey : definedLook.key k = quotedLook.key k := rfl
    rw [Tok.text, Tok.text, hkey, quotedLook_key_append, quotedLook_key_append,
      dropUndefined_key hok htext hblank hu]
  | missing k c =>
    have hcomma : c = false → dropComma (text quotedLook ts) = text quotedLook ts := by
      rintro rfl
      exact dropComma_of_ends hfollows quotedLook
    rw [text_missing_append rfl, quotedLook_key_append, dropUndefined_missing hok hcomma]
    rfl

/-! ## Leaving out commas -/

theorem closesStructure_cons {c : Char} (h : Text.isBlank c = false) (cs : List Char) :
    closesStructure (c :: cs) = (c == ']' || c == '\x7d') := by
  unfold closesStructure
  rw [List.dropWhile_cons_of_neg (Bool.eq_false_iff.1 h)]

theorem closesStructure_space (cs : List Char) :
    closesStructure (' ' :: cs) = closesStructure cs := by
  unfold closesStructure
  rw [List.dropWhile_cons_of_pos rfl]

/-- A quote behind a text closes no array and no object. -/
theorem closesStructure_append_quote (s cs : List Char) :
    closesStructure (s ++ '"' :: cs) = closesStructure s := by
  induction s with
  | nil => exact closesStructure_cons rfl cs
  | cons c s ih =>
    by_cases hc : Text.isBlank c = true
    · unfold closesStructure at ih ⊢
      rw [List.cons_append, List.dropWhile_cons_of_pos hc, List.dropWhile_cons_of_pos hc]
      exact ih
    · have hc := Bool.eq_false_iff.2 hc
      rw [List.cons_append, closesStructure_cons hc, closesStructure_cons hc]

theorem dropTrailingCommas_cons_of_ne {c : Char} (h : c ≠ ',') (cs : List Char) :
    dropTrailingCommas (c :: cs) = c :: dropTrailingCommas cs := by
  simp [dropTrailingCommas, h]

theorem dropTrailingCommas_comma (cs : List Char) :
    dropTrailingCommas (',' :: cs) =
      (if closesStructure cs then [] else [',']) ++ dropTrailingCommas cs := by
  cases h : closesStructure cs <;> simp [dropTrailingCommas, h]

theorem dropTrailingCommas_append {a : List Char} (h : ',' ∉ a) (cs : List Char) :
    dropTrailingCommas (a ++ cs) = a ++ dropTrailingCommas cs := by
  induction a with
  | nil => rfl
  | cons c a ih =>
    obtain ⟨hc, ha⟩ := List.ne_and_not_mem_of_not_mem_cons h
    rw [List.cons_append, dropTrailingCommas_cons_of_ne (Ne.symm hc), ih ha, List.cons_append]

theorem dropTrailingCommas_append_quote (s cs : List Char) :
    dropTrailingCommas (s ++ '"' :: cs) = dropTrailingCommas s ++ '"' :: dropTrailingCommas cs := by
  induction s with
  | nil => exact dropTrailingCommas_cons_of_ne (by decide) cs
  | cons c s ih =>
    by_cases hc : c = ','
    · rw [hc, List.cons_append, dropTrailingCommas_comma, dropTrailingCommas_comma,
        closesStructure_append_quote, ih, List.append_assoc]
    · rw [List.cons_append, dropTrailingCommas_cons_of_ne hc, dropTrailingCommas_cons_of_ne hc, ih,
        List.cons_append]

theorem closesStructure_text {ts : List Tok} (hts : Apart ts) :
    closesStructure (text definedLook ts) = closes ts := by
  induction ts with
  | nil => rfl
  | cons t ts ih =>
    obtain ⟨hok, -, hts⟩ := hts
    cases t with
    | mark c =>
      by_cases hspace : c = ' '
      · subst hspace
        exact (closesStructure_space _).trans (ih hts)
      · have hall : ∀ d ∈ ['[', ']', '\x7b', '\x7d', ' '], d ≠ ' ' → Text.isBlank d = false :=
          List.all_iff_forall_prop.1 (by decide)
        rw [closes, if_neg hspace]
        exact closesStructure_cons (hall c hok hspace) _
    | comma b =>
      rw [text_cons, text_comma rfl]
      exact closesStructure_cons rfl _
    | word cs =>
      obtain ⟨c, ds, htext, hblank, -⟩ := exists_of_begins (l := definedLook) hok trivial ts
      have hc : c ≠ ']' ∧ c ≠ '\x7d' := by
        obtain ⟨d, es, rfl, -⟩ := hok.head
        obtain ⟨rfl, -⟩ := List.cons.inj htext
        constructor
        · rintro rfl
          exact hok.not_mem rfl (by decide) List.mem_cons_self
        · rintro rfl
          exact hok.not_mem rfl (by decide) List.mem_cons_self
      rw [htext, closesStructure_cons hblank]
      simp [closes, hc]
    | item s => exact closesStructure_cons rfl _
    | member k s =>
      rw [text_cons, text_member_append]
      exact closesStructure_cons rfl _
    | key k => exact closesStructure_cons rfl _
    | missing k c => exact ih hts

theorem comma_not_mem_key {k : List Char} (hk : BareName k) : ',' ∉ definedLook.key k := by
  have hmem : ',' ∉ k := hk.not_mem rfl
  simpa [definedLook, quotedLook] using hmem

theorem step_dropTrailingCommas : Step dropTrailingCommas definedLook tidiedLook := by
  rintro t ts ⟨hok, hfollows, hts⟩
  cases t with
  | mark c => exact dropTrailingCommas_cons_of_ne (hok.mark_ne (by decide)) _
  | comma b =>
    have hcloses : closes ts = b := hfollows
    rw [text_comma rfl, List.singleton_append, dropTrailingCommas_comma, closesStructure_text hts,
      hcloses]
    cases b <;> rfl
  | word cs => exact dropTrailingCommas_append (hok.not_mem rfl (by decide)) _
  | item s =>
    rw [text_item_append, text_item_append, dropTrailingCommas_cons_of_ne (by decide)]
    exact congrArg _ (dropTrailingCommas_append_quote s _)
  | member k s =>
    rw [text_member_append, text_member_append, dropTrailingCommas_append (comma_not_mem_key hok.1),
      dropTrailingCommas_cons_of_ne (by decide), dropTrailingCommas_append_quote]
    rfl
  | key k => exact dropTrailingCommas_append (comma_not_mem_key hok) _
  | missing k c => rfl

/-! ## Unmasking colons -/

theorem unmaskColons_append {a : List Char} (h : '@' ∉ a) (cs : List Char) :
    unmaskColons (a ++ cs) = a ++ unmaskColons cs := by
  induction a with
  | nil => rfl
  | cons c a ih =>
    obtain ⟨hc, ha⟩ := List.ne_and_not_mem_of_not_mem_cons h
    rw [List.cons_append, unmaskColons_cons_of_ne (Ne.symm hc), ih ha, List.cons_append]

/-- The mask does not reach over a quote. -/
theorem exists_of_mask_append {s cs rest : List Char} (h : s ++ '"' :: cs = mask ++ rest) :
    ∃ r, s = mask ++ r := by
  rcases List.append_eq_append_iff.1 h with ⟨a, hmask, ha⟩ | ⟨r, hs, -⟩
  · cases a with
    | nil => exact ⟨[], by rw [hmask, List.append_nil, List.append_nil]⟩
    | cons c a =>
      obtain ⟨rfl, -⟩ := List.cons.inj ha
      have hmem : '"' ∈ mask := by
        rw [hmask]
        simp
      exact absurd hmem (by decide)
  · exact ⟨r, hs⟩

theorem unmaskColons_append_quote (s cs : List Char) :
    unmaskColons (s ++ '"' :: cs) = unmaskColons s ++ '"' :: unmaskColons cs := by
  induction s using mask_induction with
  | nil => exact unmaskColons_cons_of_ne (by decide) cs
  | masked r ih =>
    rw [List.append_assoc, unmaskColons_mask, unmaskColons_mask, ih, List.cons_append]
  | cons c s hne ih =>
    have hne' : ∀ r, c :: (s ++ '"' :: cs) ≠ mask ++ r := by
      intro r hr
      obtain ⟨r', hr'⟩ := exists_of_mask_append (s := c :: s) hr
      exact hne r' hr'
    rw [List.cons_append, unmaskColons_cons hne', unmaskColons_cons hne, ih, List.cons_append]

theorem at_not_mem_key {k : List Char} (hk : BareName k) : '@' ∉ tidiedLook.key k := by
  have hmem : '@' ∉ k := hk.not_mem rfl
  simpa [tidiedLook, definedLook, quotedLook] using hmem

theorem step_unmaskColons : Step unmaskColons tidiedLook settledLook := by
  rintro t ts ⟨hok, hfollows, hts⟩
  cases t with
  | mark c => exact unmaskColons_cons_of_ne (hok.mark_ne (by decide)) _
  | comma b =>
    refine unmaskColons_append ?_ _
    cases b <;> decide
  | word cs => exact unmaskColons_append (hok.not_mem rfl (by decide)) _
  | item s =>
    rw [text_item_append, text_item_append, unmaskColons_cons_of_ne (by decide)]
    exact congrArg _ (unmaskColons_append_quote _ _)
  | member k s =>
    rw [text_member_append, text_member_append, unmaskColons_append (at_not_mem_key hok.1),
      unmaskColons_cons_of_ne (by decide), unmaskColons_append_quote]
    rfl
  | key k => exact unmaskColons_append (at_not_mem_key hok) _
  | missing k c => rfl

/-! ## All steps -/

/-- **All steps together settle the look of the tokens.** -/
theorem tidy_of_printed {ts : List Tok} (hts : Apart ts) {cs : List Char}
    (hcs : doubleQuotes cs = text printed ts) : tidy cs = text settledLook ts := by
  unfold tidy
  rw [hcs, text_of_step step_maskColons maskColons_nil hts,
    text_of_step step_quoteNames quoteNames_nil hts,
    text_of_step step_dropUndefined dropUndefined_nil hts,
    text_of_step step_dropTrailingCommas rfl hts,
    text_of_step step_unmaskColons unmaskColons_nil hts]

end Logbook.Console
