import Mathlib.Data.List.Basic
import Logbook.Text.Lines

/-!
# Pieces and lines of a text

* `pieces_append_sep`: a separator divides a text into the pieces before it and those behind it;
* **`pieces_intercalate`**: pieces with the separator between them are found again;
* `not_mem_of_mem_lines`: no line has a line feed in it;
* `lines_eq_pieces`: without carriage returns, the lines of a text are its pieces.
-/

namespace Logbook.Text

variable {sep : Char}

theorem pieces_cons_sep (sep : Char) (cs : List Char) :
    pieces sep (sep :: cs) = [] :: pieces sep cs := by
  rw [pieces, if_pos rfl]

theorem pieces_cons_ne {c : Char} (h : c ≠ sep) {p : List Char} {ps : List (List Char)}
    {cs : List Char} (hp : pieces sep cs = p :: ps) : pieces sep (c :: cs) = (c :: p) :: ps := by
  rw [pieces, if_neg h, hp]

theorem exists_pieces_eq_cons (sep : Char) (cs : List Char) : ∃ p ps, pieces sep cs = p :: ps :=
  List.exists_cons_of_ne_nil (pieces_ne_nil sep cs)

theorem pieces_of_not_mem {cs : List Char} (h : sep ∉ cs) : pieces sep cs = [cs] := by
  induction cs with
  | nil => rfl
  | cons c cs ih =>
    obtain ⟨hc, hcs⟩ := List.ne_and_not_mem_of_not_mem_cons h
    exact pieces_cons_ne (Ne.symm hc) (ih hcs)

theorem pieces_append_sep (sep : Char) (as bs : List Char) :
    pieces sep (as ++ sep :: bs) = pieces sep as ++ pieces sep bs := by
  induction as with
  | nil => exact pieces_cons_sep sep bs
  | cons a as ih =>
    by_cases h : a = sep
    · subst h
      rw [List.cons_append, pieces_cons_sep, pieces_cons_sep, ih, List.cons_append]
    · obtain ⟨p, ps, hp⟩ := exists_pieces_eq_cons sep as
      rw [hp, List.cons_append] at ih
      rw [List.cons_append, pieces_cons_ne h ih, pieces_cons_ne h hp, List.cons_append]

/-- **Pieces are found again** in the text that they make with the separator between them. -/
theorem pieces_intercalate {ps : List (List Char)} (hne : ps ≠ []) (h : ∀ p ∈ ps, sep ∉ p) :
    pieces sep ([sep].intercalate ps) = ps := by
  induction ps with
  | nil => exact absurd rfl hne
  | cons p ps ih =>
    obtain ⟨hp, hps⟩ := List.forall_mem_cons.mp h
    cases ps with
    | nil => rw [List.intercalate_singleton, pieces_of_not_mem hp]
    | cons q qs =>
      rw [List.intercalate_cons_cons, List.append_assoc, List.singleton_append, pieces_append_sep,
        pieces_of_not_mem hp, ih (List.cons_ne_nil q qs) hps, List.singleton_append]

theorem mem_intercalate {α : Type} {between : List α} {ps : List (List α)} {c : α}
    (h : c ∈ between.intercalate ps) : c ∈ between ∨ ∃ p ∈ ps, c ∈ p := by
  induction ps with
  | nil => exact absurd h List.not_mem_nil
  | cons p ps ih =>
    rcases eq_or_ne ps [] with rfl | hne
    · rw [List.intercalate_singleton] at h
      exact .inr ⟨p, List.mem_cons_self, h⟩
    · rw [List.intercalate_cons_of_ne_nil hne, List.mem_append, List.mem_append] at h
      rcases h with (hp | hbetween) | hps
      · exact .inr ⟨p, List.mem_cons_self, hp⟩
      · exact .inl hbetween
      · obtain hbetween | ⟨q, hq, hc⟩ := ih hps
        · exact .inl hbetween
        · exact .inr ⟨q, List.mem_cons_of_mem p hq, hc⟩

theorem not_mem_of_mem_pieces {cs p : List Char} (h : p ∈ pieces sep cs) : sep ∉ p := by
  induction cs generalizing p with
  | nil => rw [List.mem_singleton.mp h]; exact List.not_mem_nil
  | cons c cs ih =>
    by_cases hc : c = sep
    · subst hc
      rw [pieces_cons_sep] at h
      rcases List.mem_cons.mp h with rfl | h
      · exact List.not_mem_nil
      · exact ih h
    · obtain ⟨q, qs, hq⟩ := exists_pieces_eq_cons sep cs
      rw [pieces_cons_ne hc hq] at h
      rw [hq] at ih
      rcases List.mem_cons.mp h with rfl | h
      · exact List.not_mem_cons_of_ne_of_not_mem (Ne.symm hc) (ih List.mem_cons_self)
      · exact ih (List.mem_cons_of_mem q h)

theorem mem_of_mem_pieces {cs p : List Char} (h : p ∈ pieces sep cs) {c : Char} (hc : c ∈ p) :
    c ∈ cs := by
  induction cs generalizing p with
  | nil => rw [List.mem_singleton.mp h] at hc; exact hc
  | cons d cs ih =>
    by_cases hd : d = sep
    · subst hd
      rw [pieces_cons_sep] at h
      rcases List.mem_cons.mp h with rfl | h
      · exact absurd hc List.not_mem_nil
      · exact List.mem_cons_of_mem d (ih h hc)
    · obtain ⟨q, qs, hq⟩ := exists_pieces_eq_cons sep cs
      rw [pieces_cons_ne hd hq] at h
      rw [hq] at ih
      rcases List.mem_cons.mp h with rfl | h
      · rcases List.mem_cons.mp hc with rfl | hc
        · exact List.mem_cons_self
        · exact List.mem_cons_of_mem d (ih List.mem_cons_self hc)
      · exact List.mem_cons_of_mem d (ih (List.mem_cons_of_mem q h) hc)

/-! ## Lines -/

theorem dropReturn_isPrefix (line : List Char) : dropReturn line <+: line := by
  unfold dropReturn
  split
  · exact List.dropLast_prefix line
  · exact List.prefix_refl line

theorem not_mem_of_mem_lines {cs l : List Char} (h : l ∈ lines cs) : '\n' ∉ l := by
  obtain ⟨p, hp, rfl⟩ := List.mem_map.mp h
  exact fun hl => not_mem_of_mem_pieces hp ((dropReturn_isPrefix p).mem hl)

theorem mem_of_mem_lines {cs l : List Char} (h : l ∈ lines cs) {c : Char} (hc : c ∈ l) :
    c ∈ cs := by
  obtain ⟨p, hp, rfl⟩ := List.mem_map.mp h
  exact mem_of_mem_pieces hp ((dropReturn_isPrefix p).mem hc)

theorem mem_of_mem_lineRun {cs l : List Char} (h : l ∈ lineRun cs) {c : Char} (hc : c ∈ l) :
    c ∈ cs := by
  have hfirst : l ∈ (pieces '\n' cs).dropLast.map dropReturn → c ∈ cs := by
    intro hl
    obtain ⟨p, hp, rfl⟩ := List.mem_map.mp hl
    exact mem_of_mem_pieces ((List.dropLast_prefix _).mem hp) ((dropReturn_isPrefix p).mem hc)
  simp only [lineRun] at h
  split at h
  · exact hfirst h
  · next last hlast =>
    rcases List.mem_append.mp h with h | h
    · exact hfirst h
    · rw [List.mem_singleton.mp h] at hc
      exact mem_of_mem_pieces (List.mem_of_getLast? hlast) hc
  · exact absurd h List.not_mem_nil

theorem dropReturn_of_not_mem {line : List Char} (h : '\r' ∉ line) : dropReturn line = line := by
  unfold dropReturn
  split
  · next hlast => exact absurd (List.mem_of_getLast? hlast) h
  · rfl

/-- Where no piece has a carriage return in it, lines are pieces. -/
theorem lines_eq_pieces {cs : List Char} (h : ∀ p ∈ pieces '\n' cs, '\r' ∉ p) :
    lines cs = pieces '\n' cs :=
  (List.map_congr_left fun p hp => dropReturn_of_not_mem (h p hp)).trans (List.map_id _)

theorem lines_append_feed (as bs : List Char) :
    lines (as ++ '\n' :: bs) = lines as ++ lines bs := by
  rw [lines, pieces_append_sep, List.map_append, lines, lines]

theorem lines_flatten_replicate (n : Nat) (cs : List Char) :
    lines (List.replicate n (cs ++ ['\n'])).flatten =
      (List.replicate n (lines cs)).flatten ++ [[]] := by
  induction n with
  | zero => rfl
  | succ n ih =>
    rw [List.replicate_succ, List.flatten_cons, List.append_assoc, List.singleton_append,
      lines_append_feed, ih, List.replicate_succ, List.flatten_cons, List.append_assoc]

end Logbook.Text
