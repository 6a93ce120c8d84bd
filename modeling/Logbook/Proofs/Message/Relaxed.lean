import Mathlib.Data.List.Basic
import Logbook.Message.Relaxed
import Logbook.Proofs.Text.Blanks
import Logbook.Proofs.Text.Numerals

/-!
# The steps of relaxed reading

Each step goes through a text from the left and rewrites a piece here and there; these are the laws
for one piece and the text behind it.

* `exists_quotedValue`, `quotedValue?_append`: quoted values after blanks;
* `opensStructure_iff`: texts that can be an object or an array;
* `maskColons_cons_of_ne`, `maskColons_colon_of_quoted`, `maskColons_colon_of_none`;
* `quoteNames_cons_of_not`, `quoteNames_key`, `quoteNames_word`;
* `dropUndefined_cons_of_ne`, `dropUndefined_quote_of_some`, `dropUndefined_quote_of_none`;
* `unmaskColons_cons`, `unmaskColons_mask`, `mask_induction`;
* `Stays`, `tidy_cons`, `tidy_append`: what no step touches stays in front.
-/

namespace Logbook.Relaxed

/-! ## Quoted values -/

theorem exists_quotedValue {cs body after : List Char} (h : quotedValue? cs = some (body, after)) :
    ∃ b, (∀ c ∈ b, Text.isBlank c = true) ∧ '"' ∉ body ∧
      cs = b ++ '"' :: (body ++ '"' :: after) := by
  have hcs := (List.takeWhile_append_dropWhile (p := Text.isBlank) (l := cs)).symm
  unfold quotedValue? at h
  split at h
  · next rest heq =>
    have hrest := (List.takeWhile_append_dropWhile (p := (· != '"')) (l := rest)).symm
    split at h
    · next q after' hdrop =>
      obtain ⟨rfl, rfl⟩ := Prod.mk.inj (Option.some.inj h)
      have hq : q = '"' := by
        have hhead := List.head?_dropWhile_not (· != '"') rest
        rw [hdrop] at hhead
        simpa using hhead
      rw [heq] at hcs
      rw [hdrop, hq] at hrest
      refine ⟨cs.takeWhile Text.isBlank, List.all_eq_true.1 List.all_takeWhile, fun hmem => ?_, ?_⟩
      · have hne := List.all_eq_true.1 List.all_takeWhile _ hmem
        simp at hne
      · rw [← hrest]
        exact hcs
    · cases h
  · cases h

theorem quotedValue?_append {b body : List Char} (hb : ∀ c ∈ b, Text.isBlank c = true)
    (hbody : '"' ∉ body) (after : List Char) :
    quotedValue? (b ++ '"' :: (body ++ '"' :: after)) = some (body, after) := by
  obtain ⟨htake, hdrop⟩ := Text.takeWhile_dropWhile_ne hbody after
  have hblank : (b ++ '"' :: (body ++ '"' :: after)).dropWhile Text.isBlank =
      '"' :: (body ++ '"' :: after) := by
    rw [List.dropWhile_append_of_pos hb]
    rfl
  simp only [quotedValue?, hblank, hdrop, htake]

/-! ## Openings -/

theorem opensStructure_iff {cs : List Char} : opensStructure cs = true ↔
    ∃ b c m, (∀ d ∈ b, Text.isBlank d = true) ∧ (c = '[' ∨ c = '\x7b') ∧ cs = b ++ c :: m := by
  constructor
  · intro h
    have hcs := (List.takeWhile_append_dropWhile (p := Text.isBlank) (l := cs)).symm
    unfold opensStructure at h
    split at h
    · next c m hdrop =>
      rw [hdrop] at hcs
      exact ⟨_, c, m, List.all_eq_true.1 List.all_takeWhile, by simpa using h, hcs⟩
    · cases h
  · rintro ⟨b, c, m, hb, hc, rfl⟩
    have hdrop : (b ++ c :: m).dropWhile Text.isBlank = c :: m := by
      rw [List.dropWhile_append_of_pos hb]
      rcases hc with rfl | rfl <;> rfl
    rw [opensStructure, hdrop]
    rcases hc with rfl | rfl <;> rfl

/-! ## Masking colons -/

/-- A text with the mask for its colons. -/
def masked (cs : List Char) : List Char := cs.flatMap fun c => if c = ':' then mask else [c]

theorem masked_cons (c : Char) (cs : List Char) :
    masked (c :: cs) = (if c = ':' then mask else [c]) ++ masked cs := rfl

theorem maskColons_nil : maskColons [] = [] := by
  rw [maskColons]

theorem maskColons_cons_of_ne {c : Char} (h : c ≠ ':') (cs : List Char) :
    maskColons (c :: cs) = c :: maskColons cs := by
  rw [maskColons, if_neg h]

theorem maskColons_colon_of_quoted {cs body after : List Char}
    (h : quotedValue? cs = some (body, after)) :
    maskColons (':' :: cs) = [':', ' ', '"'] ++ masked body ++ '"' :: maskColons after := by
  rw [maskColons, if_pos rfl]
  split
  · next heq =>
    rw [h] at heq
    obtain ⟨rfl, rfl⟩ := Prod.mk.inj (Option.some.inj heq)
    rfl
  · next heq =>
    rw [h] at heq
    cases heq

theorem maskColons_colon_of_none {cs : List Char} (h : quotedValue? cs = none) :
    maskColons (':' :: cs) = ':' :: maskColons cs := by
  rw [maskColons, if_pos rfl]
  split
  · next heq =>
    rw [h] at heq
    cases heq
  · rfl

/-! ## Quoting names -/

theorem quoteNames_nil : quoteNames [] = [] := by
  rw [quoteNames]

theorem quoteNames_cons_of_not {c : Char} (h : isNameChar c = false) (cs : List Char) :
    quoteNames (c :: cs) = c :: quoteNames cs := by
  rw [quoteNames, if_neg (Bool.eq_false_iff.1 h)]

theorem quoteNames_cons_of_name {c : Char} (h : isNameChar c = true) (cs : List Char) :
    quoteNames (c :: cs) =
      match cs.dropWhile isNameChar with
      | ':' :: after =>
        '"' :: (c :: cs.takeWhile isNameChar ++ ['"', ':', ' '] ++ quoteNames after)
      | after => c :: cs.takeWhile isNameChar ++ quoteNames after := by
  rw [quoteNames, if_pos h]
  dsimp only
  split
  · next heq => simp only [heq]
  · next hne =>
    split
    · next heq => exact absurd heq (hne _)
    · rfl

theorem quoteNames_key {name : List Char} (hne : name ≠ [])
    (hname : ∀ c ∈ name, isNameChar c = true) (after : List Char) :
    quoteNames (name ++ ':' :: after) = '"' :: (name ++ ['"', ':', ' '] ++ quoteNames after) := by
  obtain ⟨c, name, rfl⟩ := List.exists_cons_of_ne_nil hne
  obtain ⟨hc, hname⟩ := List.forall_mem_cons.1 hname
  have hcolon : ∀ d ∈ (':' :: after).head?, isNameChar d = false := by
    rintro _ ⟨⟩
    rfl
  obtain ⟨htake, hdrop⟩ := Text.takeWhile_dropWhile_append hname hcolon
  rw [List.cons_append, quoteNames_cons_of_name hc, hdrop, htake]
  rfl

theorem quoteNames_word {word rest : List Char} (hword : ∀ c ∈ word, isNameChar c = true)
    (hrest : ∀ c ∈ rest.head?, isNameChar c = false) (hcolon : ∀ cs, rest ≠ ':' :: cs) :
    quoteNames (word ++ rest) = word ++ quoteNames rest := by
  cases word with
  | nil => rfl
  | cons c word =>
    obtain ⟨hc, hword⟩ := List.forall_mem_cons.1 hword
    obtain ⟨htake, hdrop⟩ := Text.takeWhile_dropWhile_append hword hrest
    rw [List.cons_append, quoteNames_cons_of_name hc, hdrop, htake]
    split
    · exact absurd rfl (hcolon _)
    · rfl

/-! ## Members without a value -/

theorem dropUndefined_nil : dropUndefined [] = [] := by
  rw [dropUndefined]

theorem dropUndefined_cons_of_ne {c : Char} (h : c ≠ '"') (cs : List Char) :
    dropUndefined (c :: cs) = c :: dropUndefined cs := by
  rw [dropUndefined, if_neg h]

theorem dropUndefined_quote_of_some {cs after : List Char} (h : afterUndefined? cs = some after) :
    dropUndefined ('"' :: cs) = dropUndefined after := by
  rw [dropUndefined, if_pos rfl]
  split
  · next heq =>
    rw [h] at heq
    rw [Option.some.inj heq]
  · next heq =>
    rw [h] at heq
    cases heq

theorem dropUndefined_quote_of_none {cs : List Char} (h : afterUndefined? cs = none) :
    dropUndefined ('"' :: cs) = '"' :: dropUndefined cs := by
  rw [dropUndefined, if_pos rfl]
  split
  · next heq =>
    rw [h] at heq
    cases heq
  · rfl

theorem exists_afterUndefined {cs after : List Char} (h : afterUndefined? cs = some after) :
    ∃ name b, (∀ c ∈ b, Text.isBlank c = true) ∧
      (cs = name ++ '"' :: ':' :: (b ++ (undefinedWord ++ after)) ∨
        cs = name ++ '"' :: ':' :: (b ++ (undefinedWord ++ ',' :: after))) := by
  have hcs := (List.takeWhile_append_dropWhile (p := isNameChar) (l := cs)).symm
  unfold afterUndefined? at h
  split at h
  · cases h
  split at h
  · next rest heq =>
    have hrest := (List.takeWhile_append_dropWhile (p := Text.isBlank) (l := rest)).symm
    dsimp only at h
    split at h
    · next hpre =>
      obtain ⟨more, hmore⟩ := List.isPrefixOf_iff_prefix.1 hpre
      have hafter := Option.some.inj h
      rw [← hmore, List.drop_left] at hafter
      rw [heq] at hcs
      rw [← hmore] at hrest
      refine ⟨cs.takeWhile isNameChar, rest.takeWhile Text.isBlank,
        List.all_eq_true.1 List.all_takeWhile, ?_⟩
      unfold dropComma at hafter
      split at hafter
      · right
        rw [← hafter, ← hrest]
        exact hcs
      · left
        rw [← hafter, ← hrest]
        exact hcs
    · cases h
  · cases h

/-! ## Unmasking colons -/

theorem unmaskColons_nil : unmaskColons [] = [] := rfl

theorem piecesAfter_append (p : List Char) (as bs : List Char) :
    Text.piecesAfter p as.length (as ++ bs) = Text.piecesAfter p 0 bs := by
  induction as with
  | nil => rfl
  | cons a as ih => exact ih

theorem unmaskColons_mask (cs : List Char) :
    unmaskColons (mask ++ cs) = ':' :: unmaskColons cs := by
  have hpieces : Text.splitOn mask (mask ++ cs) = [] :: Text.splitOn mask cs :=
    congrArg (List.cons []) (piecesAfter_append mask mask.tail cs)
  have hne : Text.splitOn mask cs ≠ [] := Text.piecesAfter_ne_nil mask 0 cs
  rw [unmaskColons, unmaskColons, Text.replaceAll_eq_join, Text.replaceAll_eq_join, hpieces,
    Text.join_nil_cons _ hne]
  rfl

theorem unmaskColons_cons {c : Char} {cs : List Char} (h : ∀ rest, c :: cs ≠ mask ++ rest) :
    unmaskColons (c :: cs) = c :: unmaskColons cs := by
  have hpre : mask.isPrefixOf (c :: cs) = false := by
    refine Bool.eq_false_iff.2 fun hpre => ?_
    obtain ⟨rest, hrest⟩ := List.isPrefixOf_iff_prefix.1 hpre
    exact h rest hrest.symm
  have hpieces : Text.splitOn mask (c :: cs) = Text.consFirst c (Text.splitOn mask cs) := by
    rw [Text.splitOn, Text.piecesAfter, if_neg (Bool.eq_false_iff.1 hpre), Text.splitOn]
  have hne : Text.splitOn mask cs ≠ [] := Text.piecesAfter_ne_nil mask 0 cs
  rw [unmaskColons, unmaskColons, Text.replaceAll_eq_join, Text.replaceAll_eq_join, hpieces,
    Text.join_consFirst _ _ hne]

theorem unmaskColons_cons_of_ne {c : Char} (h : c ≠ '@') (cs : List Char) :
    unmaskColons (c :: cs) = c :: unmaskColons cs :=
  unmaskColons_cons fun _ heq => h (List.cons.inj heq).1

/-- Induction on a text from the left, over whole masks and single characters. -/
@[elab_as_elim]
theorem mask_induction {P : List Char → Prop} (nil : P []) (masked : ∀ r, P r → P (mask ++ r))
    (cons : ∀ c s, (∀ r, c :: s ≠ mask ++ r) → P s → P (c :: s)) (s : List Char) : P s := by
  induction hlen : s.length using Nat.strongRecOn generalizing s with
  | ind n ih =>
    by_cases hmask : ∃ r, s = mask ++ r
    · obtain ⟨r, rfl⟩ := hmask
      have hlt : r.length < n := by
        rw [← hlen, List.length_append]
        exact Nat.lt_add_of_pos_left (by decide)
      exact masked r (ih _ hlt r rfl)
    · cases s with
      | nil => exact nil
      | cons c s =>
        have hlt : s.length < n := by
          rw [← hlen]
          exact Nat.lt_succ_self _
        exact cons c s (fun r hr => hmask ⟨r, hr⟩) (ih _ hlt s rfl)

/-! ## All steps -/

/-- A character that no step touches by itself. -/
structure Stays (c : Char) : Prop where
  name : isNameChar c = false
  mark : c ∉ ['\'', '"', ':', ',', '@']

/-- **A character that no step touches stays in front.** -/
theorem tidy_cons {c : Char} (h : Stays c) (cs : List Char) : tidy (c :: cs) = c :: tidy cs := by
  have hmark : c ≠ '\'' ∧ c ≠ '"' ∧ c ≠ ':' ∧ c ≠ ',' ∧ c ≠ '@' := by
    simpa using h.mark
  obtain ⟨hsingle, hdouble, hcolon, hcomma, hmask⟩ := hmark
  have hquotes : doubleQuotes (c :: cs) = c :: doubleQuotes cs := by
    rw [doubleQuotes, List.map_cons, if_neg hsingle]
    rfl
  have hcommas : ∀ ds, dropTrailingCommas (c :: ds) = c :: dropTrailingCommas ds := by
    intro ds
    simp [dropTrailingCommas, hcomma]
  rw [tidy, hquotes, maskColons_cons_of_ne hcolon, quoteNames_cons_of_not h.name,
    dropUndefined_cons_of_ne hdouble, hcommas, unmaskColons_cons_of_ne hmask]
  rfl

theorem not_isNameChar_of_isBlank {c : Char} (h : Text.isBlank c = true) :
    isNameChar c = false := by
  have hne : c ≠ '_' := Text.ne_of_isBlank h (by decide)
  simp [isNameChar, Text.not_isAlphanum_of_isBlank h, hne]

theorem stays_of_isBlank {c : Char} (h : Text.isBlank c = true) : Stays c where
  name := not_isNameChar_of_isBlank h
  mark hmem := by
    simp only [List.mem_cons, List.not_mem_nil, or_false] at hmem
    rcases hmem with rfl | rfl | rfl | rfl | rfl <;> cases h

theorem tidy_append {b : List Char} (h : ∀ c ∈ b, Stays c) (cs : List Char) :
    tidy (b ++ cs) = b ++ tidy cs := by
  induction b with
  | nil => rfl
  | cons c b ih =>
    obtain ⟨hc, hb⟩ := List.forall_mem_cons.1 h
    rw [List.cons_append, tidy_cons hc, ih hb]
    rfl

end Logbook.Relaxed
