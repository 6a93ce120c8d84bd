import Mathlib.Data.List.TakeWhile
import Logbook.Message.Header
import Logbook.Proofs.Text.Numerals

/-!
# What is cut off a first line

Tags, titles and bodies are pieces of a line. Between them only spaces are lost, and the marks that
stand there: the brackets of tags, and a colon behind the tags or behind the title.

* `unspaced`: a text without its spaces;
* `bracketTag?_eq_some_iff`, `bracketTag?_eq_none_iff`: where a tag in brackets can be cut off;
* `CutOff`, `cutOff_bracketTags`: tags in brackets in front of a text, up to one that opens with
  none;
* `Stripped`, `exists_stripped`: the word and the tags of a line;
* `unspaced_splitTitle`: the title and the body of a line;
* **`stripTags_splitTitle_keep`**: together they are the line.
-/

namespace Logbook

/-! ## Spaces -/

/-- A text without its spaces. -/
def unspaced (cs : List Char) : List Char := cs.filter (· != ' ')

@[simp] theorem unspaced_nil : unspaced [] = [] := rfl

@[simp] theorem unspaced_append (cs ds : List Char) :
    unspaced (cs ++ ds) = unspaced cs ++ unspaced ds := List.filter_append ..

theorem unspaced_cons {c : Char} (h : c ≠ ' ') (cs : List Char) :
    unspaced (c :: cs) = c :: unspaced cs := List.filter_cons_of_pos (by simpa using h)

@[simp] theorem unspaced_space (cs : List Char) : unspaced (' ' :: cs) = unspaced cs := rfl

@[simp] theorem unspaced_dropSpaces (cs : List Char) : unspaced (dropSpaces cs) = unspaced cs := by
  induction cs with
  | nil => rfl
  | cons c cs ih =>
    by_cases hc : c = ' '
    · subst hc
      exact ih
    · rw [dropSpaces, List.dropWhile_cons_of_neg (by simpa using hc)]

@[simp] theorem unspaced_dropTrailingSpaces (cs : List Char) :
    unspaced (dropTrailingSpaces cs) = unspaced cs := by
  have h := unspaced_dropSpaces cs.reverse
  rw [unspaced, unspaced, List.filter_reverse] at h
  rw [dropTrailingSpaces, Text.dropTrailing, unspaced, List.filter_reverse]
  exact List.reverse_eq_iff.2 h

theorem dropSpaces_suffix (cs : List Char) : dropSpaces cs <:+ cs := List.dropWhile_suffix _

/-! ## Tags in brackets -/

/-- A text opens with a tag in brackets. -/
def OpensTag (cs inside after : List Char) : Prop :=
  cs = '[' :: (inside ++ ']' :: after) ∧ inside ≠ [] ∧ ∀ c ∈ inside, isTagChar c = true

theorem bracketTag?_eq_some_iff {cs tag rest : List Char} :
    bracketTag? cs = some (tag, rest) ↔ ∃ inside after, OpensTag cs inside after ∧
      tag = dropTrailingSpaces (dropSpaces inside) ∧ rest = dropSpaces after := by
  constructor
  · intro h
    unfold bracketTag? at h
    split at h
    · next cs =>
      split at h
      · next after hdrop =>
        rw [Option.ite_none_left_eq_some] at h
        obtain ⟨hne, htag⟩ := h
        obtain ⟨rfl, rfl⟩ := Prod.mk.inj (Option.some.inj htag)
        refine ⟨_, after, ⟨?_, by simpa using hne, fun c hc => List.mem_takeWhile_imp hc⟩, rfl, rfl⟩
        rw [← hdrop, List.takeWhile_append_dropWhile]
      · cases h
    · cases h
  · rintro ⟨inside, after, ⟨rfl, hne, hinside⟩, rfl, rfl⟩
    have hclose : ∀ c ∈ (']' :: after).head?, isTagChar c = false := by
      rintro c ⟨⟩
      rfl
    obtain ⟨htake, hdrop⟩ := Text.takeWhile_dropWhile_append hinside hclose
    simp only [bracketTag?, htake, hdrop, List.isEmpty_eq_false_iff.2 hne, Bool.false_eq_true,
      if_false]

theorem bracketTag?_eq_none_iff {cs : List Char} :
    bracketTag? cs = none ↔ ∀ inside after, ¬ OpensTag cs inside after := by
  rw [Option.eq_none_iff_forall_ne_some]
  refine ⟨fun h inside after hopens => ?_, fun h m hm => ?_⟩
  · exact h _ (bracketTag?_eq_some_iff.2 ⟨inside, after, hopens, rfl, rfl⟩)
  · obtain ⟨inside, after, hopens, -⟩ := bracketTag?_eq_some_iff.1 hm
    exact h inside after hopens

/-- A tag as it stands in a line. -/
def bracketed (tag : List Char) : List Char := '[' :: (tag ++ [']'])

theorem unspaced_bracketed (tag : List Char) :
    unspaced (bracketed tag) = '[' :: (unspaced tag ++ [']']) := by
  rw [bracketed, unspaced_cons (by decide), unspaced_append]
  rfl

theorem OpensTag.unspaced {cs inside after : List Char} (h : OpensTag cs inside after) :
    Logbook.unspaced cs = Logbook.unspaced (bracketed inside) ++ Logbook.unspaced after := by
  rw [h.1, unspaced_bracketed, unspaced_cons (by decide), unspaced_append,
    unspaced_cons (by decide)]
  simp

theorem OpensTag.suffix {cs inside after : List Char} (h : OpensTag cs inside after) :
    after <:+ cs := by
  rw [h.1]
  exact (List.suffix_cons ']' after).trans
    ((List.suffix_append inside _).trans (List.suffix_cons '[' _))

/-- **Tags cut off** in front of a text: as many as there are, and between them only spaces. -/
structure CutOff (cs : List Char) (tags : List (List Char)) (left : List Char) : Prop where
  kept : unspaced cs = tags.flatMap (fun tag => unspaced (bracketed tag)) ++ unspaced left
  suffix : left <:+ cs
  stops : ∀ inside after, ¬ OpensTag left inside after

theorem cutOff_bracketTags (cs : List Char) : CutOff cs (bracketTags cs).1 (bracketTags cs).2 := by
  fun_induction bracketTags cs with
  | case1 cs tag rest h tags left htags ih =>
    rw [htags] at ih
    obtain ⟨inside, after, hopens, rfl, rfl⟩ := bracketTag?_eq_some_iff.1 h
    refine ⟨?_, ?_, ih.stops⟩
    · rw [hopens.unspaced, ← unspaced_dropSpaces after, ih.kept, List.flatMap_cons,
        List.append_assoc]
      simp [unspaced_bracketed]
    · exact ih.suffix.trans ((dropSpaces_suffix after).trans hopens.suffix)
  | case2 cs h => exact ⟨rfl, List.suffix_refl cs, bracketTag?_eq_none_iff.1 h⟩

/-! ## The word and the tags of a line -/

theorem leadingWord?_eq_some_iff {cs word rest : List Char} :
    leadingWord? cs = some (word, rest) ↔ cs = word ++ ' ' :: rest ∧ ' ' ∉ word ∧ '[' ∉ word := by
  constructor
  · intro h
    unfold leadingWord? at h
    dsimp only at h
    split at h
    · next rest' hdrop =>
      obtain ⟨rfl, rfl⟩ := Prod.mk.inj (Option.some.inj h)
      have hword : ∀ c ∈ cs.takeWhile fun c => c != '[' && c != ' ', c ≠ '[' ∧ c ≠ ' ' :=
        fun c hc => by simpa using List.mem_takeWhile_imp hc
      refine ⟨?_, fun hmem => (hword _ hmem).2 rfl, fun hmem => (hword _ hmem).1 rfl⟩
      rw [← hdrop, List.takeWhile_append_dropWhile]
    · cases h
  · rintro ⟨rfl, hspace, hbracket⟩
    have hword : ∀ c ∈ word, (c != '[' && c != ' ') = true := by
      intro c hc
      have hne : c ≠ '[' ∧ c ≠ ' ' := ⟨fun h => hbracket (h ▸ hc), fun h => hspace (h ▸ hc)⟩
      simpa using hne
    have hend : ∀ c ∈ (' ' :: rest).head?, (c != '[' && c != ' ') = false := by
      rintro c ⟨⟩
      rfl
    obtain ⟨htake, hdrop⟩ := Text.takeWhile_dropWhile_append hword hend
    simp only [leadingWord?, htake, hdrop]

theorem dropColon_cases (cs : List Char) : cs.head? ≠ some ':' ∧ dropColon cs = cs ∨
    ∃ rest, cs = ':' :: rest ∧ dropColon cs = dropSpaces rest := by
  unfold dropColon
  split
  · next rest => exact .inr ⟨rest, rfl, rfl⟩
  · next hne =>
    refine .inl ⟨fun h => ?_, rfl⟩
    obtain ⟨rest, rfl⟩ := List.head?_eq_some_iff.1 h
    exact hne rest rfl

theorem unspaced_dropColon (cs : List Char) :
    unspaced cs = (if cs.head? = some ':' then [':'] else []) ++ unspaced (dropColon cs) := by
  rcases dropColon_cases cs with ⟨hne, hdrop⟩ | ⟨rest, rfl, hdrop⟩
  · rw [if_neg hne, hdrop, List.nil_append]
  · rw [if_pos List.head?_cons, hdrop, unspaced_dropSpaces, unspaced_cons (by decide)]
    rfl

theorem dropColon_suffix (cs : List Char) : dropColon cs <:+ cs := by
  rcases dropColon_cases cs with ⟨-, hdrop⟩ | ⟨rest, rfl, hdrop⟩
  · exact ⟨[], hdrop⟩
  · rw [hdrop]
    exact (dropSpaces_suffix rest).trans (List.suffix_cons ':' rest)

/-- **A line without its word and its tags.** `left` is what these leave of it. -/
structure Stripped (first : List Char) (word : Option (List Char)) (tags : List (List Char))
    (left line : List Char) : Prop where
  /-- A word stands in front of the first space, and no bracket in it. -/
  word_iff : ∀ w, word = some w ↔ ∃ rest, first = w ++ ' ' :: rest ∧ ' ' ∉ w ∧ '[' ∉ w
  kept : unspaced first = word.getD [] ++ (tags.flatMap (fun tag => unspaced (bracketed tag)) ++
    ((if left.head? = some ':' then [':'] else []) ++ unspaced line))
  suffix : line <:+ first
  /-- No tag opens what is left, of which a colon goes with the spaces behind it. -/
  stops : ∀ inside after, ¬ OpensTag left inside after
  colon : left.head? ≠ some ':' ∧ line = left ∨ ∃ rest, left = ':' :: rest ∧ line = dropSpaces rest

theorem exists_stripped (first : List Char) : ∃ word tags left,
    (stripTags first).1 = word.toList ++ tags ∧
      Stripped first word tags left (stripTags first).2 := by
  cases hword : leadingWord? first with
  | none =>
    have hcut := cutOff_bracketTags first
    simp only [stripTags, hword]
    refine ⟨none, _, _, rfl, fun w => ⟨nofun, ?_⟩, ?_, (dropColon_suffix _).trans hcut.suffix,
      hcut.stops, dropColon_cases _⟩
    · rintro ⟨rest, h⟩
      rw [leadingWord?_eq_some_iff.2 h] at hword
      cases hword
    · rw [hcut.kept, unspaced_dropColon (bracketTags first).2]
      rfl
  | some m =>
    obtain ⟨word, rest⟩ := m
    obtain ⟨rfl, hspace, hbracket⟩ := leadingWord?_eq_some_iff.1 hword
    have hcut := cutOff_bracketTags rest
    simp only [stripTags, hword]
    refine ⟨some word, _, _, rfl, fun w => ⟨?_, ?_⟩, ?_, (dropColon_suffix _).trans ?_, hcut.stops,
      dropColon_cases _⟩
    · rintro ⟨⟩
      exact ⟨rest, rfl, hspace, hbracket⟩
    · rintro ⟨rest', h⟩
      rw [leadingWord?_eq_some_iff.2 h] at hword
      exact congrArg (Option.map Prod.fst) hword.symm
    · have hunspaced : unspaced word = word := List.filter_eq_self.2 fun c hc =>
        bne_iff_ne.2 fun h => hspace (h ▸ hc)
      rw [unspaced_append, unspaced_space, hcut.kept, hunspaced,
        unspaced_dropColon (bracketTags rest).2]
      rfl
    · exact hcut.suffix.trans ((List.suffix_cons ' ' rest).trans (List.suffix_append word _))

/-! ## Title and body -/

theorem not_isTitleEnd_of_isTitleStart {c : Char} (h : isTitleStart c = true) :
    isTitleEnd c = false := by
  rw [Bool.eq_false_iff]
  intro hend
  rw [isTitleEnd, List.contains_iff_mem] at hend
  simp only [List.mem_cons, List.not_mem_nil, or_false] at hend
  rcases hend with rfl | rfl | rfl | rfl | rfl | rfl | rfl | rfl <;> revert h <;> decide

theorem find?_dropSpaces (cs : List Char) :
    (dropSpaces cs).find? isTitleEnd = cs.find? isTitleEnd := by
  induction cs with
  | nil => rfl
  | cons c cs ih =>
    by_cases hc : c = ' '
    · subst hc
      exact ih
    · rw [dropSpaces, List.dropWhile_cons_of_neg (by simpa using hc)]

/-- **The title and the body of a line are the line**, with the colon that ends the title. -/
theorem unspaced_splitTitle (line : List Char) :
    unspaced line = unspaced ((splitTitle line).1.getD []) ++
      ((if (splitTitle line).1.isSome ∧ line.find? isTitleEnd = some ':' then [':'] else []) ++
        unspaced (splitTitle line).2) := by
  cases hline : dropSpaces line with
  | nil => simp [splitTitle, hline]
  | cons c rest =>
    by_cases hstart : isTitleStart c = true
    · have hend : line.find? isTitleEnd = (rest.dropWhile fun d => !isTitleEnd d).head? := by
        rw [← find?_dropSpaces, hline, List.find?_cons, not_isTitleEnd_of_isTitleStart hstart,
          List.find?_eq_head?_dropWhile_not]
      rw [hend, ← unspaced_dropSpaces line, hline]
      simp only [splitTitle, hline, if_pos hstart]
      -- The spaces in front are gone: what is left is the first character, the title behind it up
      -- to the first mark that ends it, and from that mark on.
      generalize htake : (rest.takeWhile fun d => !isTitleEnd d) = name
      generalize hdrop : (rest.dropWhile fun d => !isTitleEnd d) = tail
      have hrest : rest = name ++ tail := by rw [← htake, ← hdrop, List.takeWhile_append_dropWhile]
      rw [hrest, ← List.cons_append, unspaced_append]
      cases tail with
      | nil => simp
      | cons separator body =>
        by_cases hcolon : separator = ':'
        · subst hcolon
          simp [unspaced_cons]
        · have hbody : unspaced (separator :: dropSpaces body) = unspaced (separator :: body) := by
            rw [← List.singleton_append, unspaced_append, unspaced_dropSpaces, ← unspaced_append,
              List.singleton_append]
          simp [hcolon, hbody]
    · simp [splitTitle, hline, hstart]

/-- **Nothing but spaces is lost of a first line.** It is its word, its tags in brackets, a colon
and the line behind them; and this line is its title, the colon that ends the title, and its
body. -/
theorem stripTags_splitTitle_keep (first : List Char) : ∃ word tags left line title body,
    stripTags first = (word.toList ++ tags, line) ∧ splitTitle line = (title, body) ∧
      Stripped first word tags left line ∧
      unspaced line = unspaced (title.getD []) ++
        ((if title.isSome ∧ line.find? isTitleEnd = some ':' then [':'] else []) ++
          unspaced body) := by
  obtain ⟨word, tags, left, htags, hstripped⟩ := exists_stripped first
  exact ⟨word, tags, left, _, _, _, Prod.ext htags rfl, rfl, hstripped, unspaced_splitTitle _⟩

end Logbook
