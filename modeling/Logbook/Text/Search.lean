/-!
# Searching, cutting and replacing

Texts are lists of characters here. Matches of a searched text are taken from the left and do not
overlap; the last occurrence is the one that starts furthest right.

* `indexOf?`, `lastIndexOf?`: where a text occurs;
* `splitOn`, `replaceFirst`, `replaceAll`: the pieces between matches, and other text for them;
* `join`: pieces put together with a separator;
* **`join_splitOn`**: cutting and joining with the same separator gives the text back;
* **`replaceAll_eq_join`**: replacing is cutting, and joining with the other text.
-/

namespace Logbook.Text

/-- The least position at which `p` occurs. -/
def indexOf? (p : List Char) : List Char → Option Nat
  | [] => if p.isEmpty then some 0 else none
  | c :: s => if p.isPrefixOf (c :: s) then some 0 else (indexOf? p s).map (· + 1)

/-- The greatest position at which `p` occurs. -/
def lastIndexOf? (p : List Char) : List Char → Option Nat
  | [] => if p.isEmpty then some 0 else none
  | c :: s =>
    match lastIndexOf? p s with
    | some i => some (i + 1)
    | none => if p.isPrefixOf (c :: s) then some 0 else none

/-- Puts a character in front of the first piece. -/
def consFirst (c : Char) : List (List Char) → List (List Char)
  | [] => [[c]]
  | piece :: rest => (c :: piece) :: rest

/-- The pieces of a text, of which the first `skip` characters belong to a match. -/
def piecesAfter (p : List Char) : Nat → List Char → List (List Char)
  | _, [] => [[]]
  | skip + 1, _ :: s => piecesAfter p skip s
  | 0, c :: s =>
    if p.isPrefixOf (c :: s) then [] :: piecesAfter p (p.length - 1) s
    else consFirst c (piecesAfter p 0 s)

/-- The pieces between the matches of the separator `p`, which is not empty. -/
def splitOn (p s : List Char) : List (List Char) := piecesAfter p 0 s

/-- The pieces put together, `sep` between two of them. -/
def join (sep : List Char) (pieces : List (List Char)) : List Char := sep.intercalate pieces

/-- The text with `r` in place of the first occurrence of `p`. -/
def replaceFirst (p r s : List Char) : List Char :=
  match indexOf? p s with
  | some i => s.take i ++ r ++ s.drop (i + p.length)
  | none => s

/-- The text with `r` in place of its matches, after the first `skip` characters, which belong to a
match. -/
def replacedAfter (p r : List Char) : Nat → List Char → List Char
  | _, [] => []
  | skip + 1, _ :: s => replacedAfter p r skip s
  | 0, c :: s =>
    if p.isPrefixOf (c :: s) then r ++ replacedAfter p r (p.length - 1) s
    else c :: replacedAfter p r 0 s

/-- The text with `r` in place of every match of `p`, which is not empty. -/
def replaceAll (p r s : List Char) : List Char := replacedAfter p r 0 s

/-! ## Laws -/

theorem piecesAfter_ne_nil (p : List Char) (n : Nat) (s : List Char) : piecesAfter p n s ≠ [] := by
  fun_induction piecesAfter p n s with
  | case1 => simp
  | case2 _ _ _ ih => exact ih
  | case3 => simp
  | case4 c s _ ih =>
    cases h : piecesAfter p 0 s with
    | nil => exact absurd h ih
    | cons => simp [consFirst]

theorem join_consFirst (sep : List Char) (c : Char) {l : List (List Char)} (h : l ≠ []) :
    join sep (consFirst c l) = c :: join sep l := by
  cases l with
  | nil => exact absurd rfl h
  | cons a l => cases l <;> simp [consFirst, join, List.intercalate]

theorem join_nil_cons (sep : List Char) {l : List (List Char)} (h : l ≠ []) :
    join sep ([] :: l) = sep ++ join sep l := by
  cases l with
  | nil => exact absurd rfl h
  | cons a l => simp [join, List.intercalate]

theorem join_piecesAfter {p : List Char} (hp : p ≠ []) (n : Nat) (s : List Char) :
    join p (piecesAfter p n s) = s.drop n := by
  fun_induction piecesAfter p n s with
  | case1 => simp [join, List.intercalate]
  | case2 n c s ih => simpa using ih
  | case3 c s hpre ih =>
    rw [join_nil_cons p (piecesAfter_ne_nil p _ s), ih]
    obtain ⟨t, ht⟩ := List.isPrefixOf_iff_prefix.1 hpre
    cases p with
    | nil => exact absurd rfl hp
    | cons a p =>
      simp only [List.cons_append, List.cons.injEq] at ht
      obtain ⟨rfl, rfl⟩ := ht
      simp
  | case4 c s _ ih =>
    rw [join_consFirst p c (piecesAfter_ne_nil p 0 s), ih]
    simp

/-- **Cutting at a separator and joining with it gives the text back.** -/
theorem join_splitOn {p : List Char} (hp : p ≠ []) (s : List Char) : join p (splitOn p s) = s := by
  simpa [splitOn] using join_piecesAfter hp 0 s

theorem replacedAfter_eq_join (p r : List Char) (n : Nat) (s : List Char) :
    replacedAfter p r n s = join r (piecesAfter p n s) := by
  fun_induction replacedAfter p r n s with
  | case1 => simp [piecesAfter, join, List.intercalate]
  | case2 n c s ih => exact ih
  | case3 c s hpre ih =>
    rw [piecesAfter, if_pos hpre, join_nil_cons r (piecesAfter_ne_nil p _ s), ih]
  | case4 c s hpre ih =>
    rw [piecesAfter, if_neg hpre, join_consFirst r c (piecesAfter_ne_nil p 0 s), ih]

/-- **Replacing a text is cutting at it** and joining with the other one. -/
theorem replaceAll_eq_join (p r s : List Char) : replaceAll p r s = join r (splitOn p s) :=
  replacedAfter_eq_join p r 0 s

end Logbook.Text
