import Mathlib.Data.List.Basic
import Mathlib.Order.Bounds.Basic
import Logbook.Text.Search

/-!
# Where a text occurs

* `OccursAt`: a text stands in another one from some place on;
* **`indexOf?_isLeast`, `lastIndexOf?_isGreatest`**: the searches find the first place and the last
  one, and nothing only where there is none;
* `Cut`: a text cut at the matches of a separator, taken from the left;
* **`cut_splitOn`**: these are the pieces of a text.
-/

namespace Logbook.Text

variable {p s : List Char} {i : Nat}

/-! ## Occurrences -/

/-- `p` stands in `s` from place `i` on. -/
def OccursAt (p s : List Char) (i : Nat) : Prop := i ≤ s.length ∧ p <+: s.drop i

theorem occursAt_nil : OccursAt p [] i ↔ i = 0 ∧ p = [] := by
  rw [OccursAt, List.length_nil, Nat.le_zero, List.drop_nil, List.prefix_nil]

theorem occursAt_zero : OccursAt p s 0 ↔ p <+: s :=
  and_iff_right (Nat.zero_le s.length)

theorem occursAt_succ (c : Char) : OccursAt p (c :: s) (i + 1) ↔ OccursAt p s i := by
  rw [OccursAt, OccursAt, List.length_cons, Nat.succ_le_succ_iff, List.drop_succ_cons]

theorem isPrefixOf_eq_false : p.isPrefixOf s = false ↔ ¬OccursAt p s 0 := by
  rw [occursAt_zero, ← List.isPrefixOf_iff_prefix, Bool.not_eq_true]

theorem OccursAt.add_le (h : OccursAt p s i) : i + p.length ≤ s.length := by
  have hle := h.2.length_le
  rw [List.length_drop] at hle
  have := h.1
  omega

theorem OccursAt.take_drop (h : OccursAt p s i) : (s.take (i + p.length)).drop i = p := by
  rw [List.drop_take, Nat.add_sub_cancel_left]
  exact (List.prefix_iff_eq_take.1 h.2).symm

theorem not_occursAt_cons (c : Char) :
    (∀ i, ¬OccursAt p (c :: s) i) ↔ ¬OccursAt p (c :: s) 0 ∧ ∀ i, ¬OccursAt p s i := by
  refine ⟨fun h => ⟨h 0, fun i hi => h (i + 1) ((occursAt_succ c).2 hi)⟩, fun h i => ?_⟩
  cases i with
  | zero => exact h.1
  | succ i => exact mt (occursAt_succ c).1 (h.2 i)

/-! ## Searches -/

theorem indexOf?_eq_none_iff : indexOf? p s = none ↔ ∀ i, ¬OccursAt p s i := by
  induction s with
  | nil => simp [indexOf?, occursAt_nil]
  | cons c s ih =>
    rw [not_occursAt_cons, ← isPrefixOf_eq_false, ← ih, indexOf?]
    cases p.isPrefixOf (c :: s) <;> simp

theorem indexOf?_isLeast (h : indexOf? p s = some i) : IsLeast {i | OccursAt p s i} i := by
  induction s generalizing i with
  | nil =>
    obtain ⟨hp, hi⟩ := Option.ite_none_right_eq_some.1 h
    obtain rfl := Option.some.inj hi
    exact ⟨occursAt_nil.2 ⟨rfl, List.isEmpty_iff.1 hp⟩, fun _ _ => Nat.zero_le _⟩
  | cons c s ih =>
    rw [indexOf?] at h
    split at h
    · next hpre =>
      obtain rfl := Option.some.inj h
      exact ⟨occursAt_zero.2 (List.isPrefixOf_iff_prefix.1 hpre), fun _ _ => Nat.zero_le _⟩
    · next hpre =>
      obtain ⟨j, hj, rfl⟩ := Option.map_eq_some_iff.1 h
      obtain ⟨hmem, hleast⟩ := ih hj
      refine ⟨(occursAt_succ c).2 hmem, fun k hk => ?_⟩
      cases k with
      | zero => exact absurd hk (isPrefixOf_eq_false.1 (Bool.eq_false_iff.2 hpre))
      | succ k => exact Nat.succ_le_succ (hleast ((occursAt_succ c).1 hk))

theorem lastIndexOf?_eq_none_iff : lastIndexOf? p s = none ↔ ∀ i, ¬OccursAt p s i := by
  induction s with
  | nil => simp [lastIndexOf?, occursAt_nil]
  | cons c s ih =>
    rw [not_occursAt_cons, ← isPrefixOf_eq_false, ← ih, lastIndexOf?]
    cases lastIndexOf? p s <;> cases p.isPrefixOf (c :: s) <;> simp

theorem lastIndexOf?_isGreatest (h : lastIndexOf? p s = some i) :
    IsGreatest {i | OccursAt p s i} i := by
  induction s generalizing i with
  | nil =>
    obtain ⟨hp, hi⟩ := Option.ite_none_right_eq_some.1 h
    obtain rfl := Option.some.inj hi
    exact ⟨occursAt_nil.2 ⟨rfl, List.isEmpty_iff.1 hp⟩, fun _ hk => (occursAt_nil.1 hk).1.le⟩
  | cons c s ih =>
    rw [lastIndexOf?] at h
    split at h
    · next j hj =>
      obtain rfl := Option.some.inj h
      obtain ⟨hmem, hgreatest⟩ := ih hj
      refine ⟨(occursAt_succ c).2 hmem, fun k hk => ?_⟩
      cases k with
      | zero => exact Nat.zero_le _
      | succ k => exact Nat.succ_le_succ (hgreatest ((occursAt_succ c).1 hk))
    · next hnone =>
      obtain ⟨hpre, hi⟩ := Option.ite_none_right_eq_some.1 h
      obtain rfl := Option.some.inj hi
      refine ⟨occursAt_zero.2 (List.isPrefixOf_iff_prefix.1 hpre), fun k hk => ?_⟩
      cases k with
      | zero => exact Nat.le_refl 0
      | succ k => exact absurd ((occursAt_succ c).1 hk) (lastIndexOf?_eq_none_iff.1 hnone k)

theorem isSome_indexOf?_iff : (indexOf? p s).isSome = true ↔ ∃ i, OccursAt p s i := by
  rw [← not_iff_not, not_exists, ← indexOf?_eq_none_iff, Option.not_isSome_iff_eq_none]

/-- There is a first place just if there is a last one. -/
theorem isSome_lastIndexOf? (p s : List Char) :
    (lastIndexOf? p s).isSome = (indexOf? p s).isSome := by
  rw [Bool.eq_iff_iff, ← not_iff_not, Option.not_isSome_iff_eq_none, Option.not_isSome_iff_eq_none,
    lastIndexOf?_eq_none_iff, indexOf?_eq_none_iff]

/-! ## Cutting -/

/-- **A text cut at a separator**: the first match ends the first piece, and what stands behind the
match is cut in the same way; a text without a match is one piece. -/
inductive Cut (p : List Char) : List Char → List (List Char) → Prop where
  | whole {s : List Char} : (∀ i, ¬OccursAt p s i) → Cut p s [s]
  | first {a s : List Char} {pieces : List (List Char)} :
    IsLeast {i | OccursAt p (a ++ p ++ s) i} a.length → Cut p s pieces →
      Cut p (a ++ p ++ s) (a :: pieces)

/-- What belongs to a match is in no piece. -/
theorem piecesAfter_eq_splitOn (p : List Char) (n : Nat) (s : List Char) :
    piecesAfter p n s = splitOn p (s.drop n) := by
  induction s generalizing n with
  | nil => simp [splitOn, piecesAfter]
  | cons c s ih =>
    cases n with
    | zero => rfl
    | succ n => exact ih n

theorem splitOn_of_indexOf?_eq_none (h : indexOf? p s = none) : splitOn p s = [s] := by
  induction s with
  | nil => rfl
  | cons c s ih =>
    rw [indexOf?] at h
    split at h
    · cases h
    · next hpre =>
      rw [splitOn, piecesAfter, if_neg hpre, ← splitOn, ih (Option.map_eq_none_iff.1 h), consFirst]

theorem splitOn_of_indexOf?_eq_some (hp : p ≠ []) (h : indexOf? p s = some i) :
    splitOn p s = s.take i :: splitOn p (s.drop (i + p.length)) := by
  induction s generalizing i with
  | nil => exact absurd (List.isEmpty_iff.1 (Option.ite_none_right_eq_some.1 h).1) hp
  | cons c s ih =>
    rw [indexOf?] at h
    split at h
    · next hpre =>
      obtain rfl := Option.some.inj h
      obtain ⟨n, hn⟩ : ∃ n, p.length = n + 1 :=
        Nat.exists_eq_succ_of_ne_zero (mt List.length_eq_zero_iff.1 hp)
      rw [splitOn, piecesAfter, if_pos hpre, piecesAfter_eq_splitOn, Nat.zero_add, hn,
        List.drop_succ_cons, List.take_zero, Nat.add_sub_cancel]
    · next hpre =>
      obtain ⟨j, hj, rfl⟩ := Option.map_eq_some_iff.1 h
      rw [splitOn, piecesAfter, if_neg hpre, ← splitOn, ih hj, consFirst, Nat.add_right_comm,
        List.drop_succ_cons, List.take_succ_cons]

/-- **The pieces of a text** are those between the matches taken from the left. -/
theorem cut_splitOn (hp : p ≠ []) (s : List Char) : Cut p s (splitOn p s) := by
  induction hn : s.length using Nat.strongRecOn generalizing s with
  | ind n ih =>
    cases hi : indexOf? p s with
    | none =>
      rw [splitOn_of_indexOf?_eq_none hi]
      exact .whole (indexOf?_eq_none_iff.1 hi)
    | some i =>
      have hleast := indexOf?_isLeast hi
      have hocc : OccursAt p s i := hleast.1
      have hs : s.take i ++ p ++ s.drop (i + p.length) = s := by
        rw [← List.drop_drop, List.append_assoc, List.prefix_iff_eq_append.1 hocc.2,
          List.take_append_drop]
      have hrest : (s.drop (i + p.length)).length < n := by
        have hpos := List.length_pos_iff.2 hp
        have hle := hocc.add_le
        rw [List.length_drop]
        omega
      have hfirst : IsLeast {k | OccursAt p (s.take i ++ p ++ s.drop (i + p.length)) k}
          (s.take i).length := by
        rw [hs, List.length_take_of_le hocc.1]
        exact hleast
      have hcut := Cut.first hfirst (ih _ hrest _ rfl)
      rwa [hs, ← splitOn_of_indexOf?_eq_some hp hi] at hcut

end Logbook.Text
