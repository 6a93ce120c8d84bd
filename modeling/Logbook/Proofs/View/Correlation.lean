import Mathlib.Data.List.Count
import Mathlib.Data.List.Sort
import Logbook.Proofs.Keyed
import Logbook.View.Annotation

/-!
# Correlation

A group counts the places at which an id was noted, not the records that have it. Both are the same
because no record has an id twice, whatever value its ids are read from.

* `mem_dedup`, `nodup_dedup`: lists without later copies;
* `nodup_idsOf`, `nodup_ids_annotate`: the ids of a value, and those of a record;
* `notedAt`, `find?_groupPositions`, `find?_correlate_eq_some_iff`: the places noted for an id, and
  the groups of them;
* `notedAt_map`, `notedAt_positionsFrom`: where no record has an id twice, these are the records
  that have it;
* `Correlates`: what the groups of some annotations have to be;
* **`correlates_annotate`**: the annotations of any records are correlated just so.
-/

namespace Logbook

open Keyed

/-! ## Ids -/

theorem mem_dedup {l seen : List String} {x : String} :
    x ∈ dedup seen l ↔ x ∈ l ∧ x ∉ seen := by
  induction l generalizing seen with
  | nil => simp [dedup]
  | cons y ys ih =>
    unfold dedup
    by_cases hy : y ∈ seen
    · rw [if_pos (List.contains_iff_mem.mpr hy), ih, List.mem_cons]
      constructor
      · exact fun h => ⟨.inr h.1, h.2⟩
      · rintro ⟨rfl | h, hx⟩
        · exact absurd hy hx
        · exact ⟨h, hx⟩
    · rw [if_neg (by rwa [List.contains_iff_mem]), List.mem_cons, List.mem_cons, ih,
        List.mem_cons]
      by_cases hxy : x = y
      · subst hxy; simp [hy]
      · simp [hxy]

/-- Without later copies, items stand in the order in which they first come up. -/
theorem pairwise_idxOf_dedup (l seen : List String) :
    (dedup seen l).Pairwise fun a b => l.idxOf a < l.idxOf b := by
  induction l generalizing seen with
  | nil => exact List.Pairwise.nil
  | cons x xs ih =>
    have hlater : ∀ seen', x ∈ seen' →
        (dedup seen' xs).Pairwise fun a b => (x :: xs).idxOf a < (x :: xs).idxOf b := by
      intro seen' hx
      refine (ih seen').imp_of_mem fun {a b} ha hb hab => ?_
      have hne : ∀ c ∈ dedup seen' xs, x ≠ c := fun c hc heq => (mem_dedup.mp hc).2 (heq ▸ hx)
      rw [List.idxOf_cons_ne xs (hne a ha), List.idxOf_cons_ne xs (hne b hb)]
      exact Nat.succ_lt_succ hab
    unfold dedup
    by_cases hx : x ∈ seen
    · rw [if_pos (List.contains_iff_mem.mpr hx)]
      exact hlater seen hx
    · rw [if_neg (mt List.contains_iff_mem.mp hx)]
      refine List.pairwise_cons.mpr ⟨fun b hb => ?_, hlater _ List.mem_cons_self⟩
      have hne : x ≠ b := fun heq => (mem_dedup.mp hb).2 (heq ▸ List.mem_cons_self)
      rw [List.idxOf_cons_self, List.idxOf_cons_ne xs hne]
      exact Nat.succ_pos _

theorem nodup_dedup (l seen : List String) : (dedup seen l).Nodup :=
  (pairwise_idxOf_dedup l seen).imp fun hlt heq => by
    rw [heq] at hlt
    exact lt_irrefl _ hlt

/-- **The ids of a value differ**, whatever items have the same text. -/
theorem nodup_idsOf (v : Value) : (idsOf v).Nodup := by
  unfold idsOf
  split
  · exact nodup_dedup _ []
  · split
    · exact .nil
    · exact List.nodup_singleton _

theorem nodup_ids_annotate {rs : List Record} {a : Annotators} {align : String → Align}
    {x : Annotation} (h : x ∈ (annotate rs a align).1) : x.ids.Nodup := by
  obtain ⟨r, -, rfl⟩ := List.mem_map.1 h
  show (a.ids r).Nodup
  unfold Annotators.ids
  split
  · exact nodup_idsOf _
  · exact .nil

/-! ## Groups -/

/-- The places noted for an id. -/
def notedAt (id : String) (l : List (String × Nat)) : List Nat :=
  (l.filter fun p => p.1 == id).map Prod.snd

theorem notedAt_append (id : String) (l l' : List (String × Nat)) :
    notedAt id (l ++ l') = notedAt id l ++ notedAt id l' := by
  rw [notedAt, List.filter_append, List.map_append]
  rfl

theorem notedAt_singleton (id : String) (p : String × Nat) :
    notedAt id [p] = if p.1 = id then [p.2] else [] := by
  by_cases hp : p.1 = id <;> simp [notedAt, hp]

theorem groupPositions_concat (l : List (String × Nat)) (p : String × Nat) :
    groupPositions (l ++ [p]) = alter p.1 [] (· ++ [p.2]) (groupPositions l) := by
  rw [groupPositions, List.foldl_append]
  rfl

theorem sorted_groupPositions (l : List (String × Nat)) : Sorted (groupPositions l) := by
  induction l using List.reverseRecOn with
  | nil => exact .nil
  | append_singleton l p ih =>
    rw [groupPositions_concat]
    exact sorted_insert _ _ ih

/-- **A group has all places noted for its id, in order**, and there is none without a place. -/
theorem find?_groupPositions (id : String) (l : List (String × Nat)) :
    find? id (groupPositions l) = if notedAt id l = [] then none else some (notedAt id l) := by
  induction l using List.reverseRecOn with
  | nil => rfl
  | append_singleton l p ih =>
    rw [groupPositions_concat, alter, find?_insert, notedAt_append, notedAt_singleton]
    by_cases hp : id = p.1
    · subst hp
      rw [if_pos rfl, if_pos rfl, if_neg (by simp), ih]
      by_cases hnil : notedAt p.1 l = [] <;> simp [hnil]
    · rw [if_neg hp, if_neg (Ne.symm hp), List.append_nil, ih]

/-- A group is kept if it has more than one place. -/
theorem find?_correlate_eq_some_iff {id : String} {annotations : List Annotation} {ps : List Nat} :
    find? id (correlate annotations) = some ps ↔
      ps = notedAt id (positionsFrom 0 annotations) ∧ 1 < ps.length := by
  rw [correlate, Sorted.find?_filter (sorted_groupPositions _), Option.filter_eq_some_iff,
    find?_groupPositions, decide_eq_true_eq]
  refine and_congr_left fun hlen => ?_
  split
  · next hnil =>
    rw [hnil]
    refine iff_of_false (by simp) ?_
    rintro rfl
    cases hlen
  · rw [Option.some_inj, eq_comm]

/-! ## Places -/

theorem notedAt_map (ids : List String) (id : String) (n : Nat) :
    notedAt id (ids.map (·, n)) = List.replicate (ids.count id) n := by
  induction ids with
  | nil => rfl
  | cons i ids ih =>
    rw [List.map_cons, ← List.singleton_append, notedAt_append, notedAt_singleton, ih,
      List.count_cons]
    by_cases hi : i = id <;> simp [hi, List.replicate_succ]

/-- **Where no record has an id twice, the places noted for an id are those of the records that have
it.** -/
theorem notedAt_positionsFrom {annotations : List Annotation}
    (h : ∀ a ∈ annotations, a.ids.Nodup) (id : String) (n : Nat) :
    notedAt id (positionsFrom n annotations) = annotations.findIdxs (id ∈ ·.ids) n := by
  induction annotations generalizing n with
  | nil => rfl
  | cons a rest ih =>
    obtain ⟨ha, hrest⟩ := List.forall_mem_cons.1 h
    rw [positionsFrom, notedAt_append, notedAt_map, ih hrest, List.findIdxs_cons]
    by_cases hid : id ∈ a.ids
    · rw [List.count_eq_one_of_mem ha hid, if_pos (decide_eq_true hid)]
      rfl
    · rw [List.count_eq_zero_of_not_mem hid, if_neg (by simpa using hid)]
      rfl

/-! ## Correlation -/

/-- **What the groups of some annotations have to be**: for each id that at least two of them have,
the places of all that have it, in order. -/
structure Correlates (groups : Keyed (List Nat)) (annotations : List Annotation) : Prop where
  sorted : Sorted groups
  isSome : ∀ id, (find? id groups).isSome = true ↔ 2 ≤ annotations.countP (id ∈ ·.ids)
  increasing : ∀ id ps, find? id groups = some ps → ps.Pairwise (· < ·)
  mem : ∀ id ps, find? id groups = some ps →
    ∀ i, i ∈ ps ↔ ∃ a, annotations[i]? = some a ∧ id ∈ a.ids

theorem correlates_correlate {annotations : List Annotation}
    (h : ∀ a ∈ annotations, a.ids.Nodup) : Correlates (correlate annotations) annotations := by
  have hfind : ∀ id ps, find? id (correlate annotations) = some ps ↔
      ps = annotations.findIdxs (id ∈ ·.ids) ∧ 1 < ps.length := fun id ps => by
    rw [find?_correlate_eq_some_iff, notedAt_positionsFrom h]
  exact
    { sorted := List.Pairwise.filter _ (sorted_groupPositions _)
      isSome := fun id => by
        simp only [Option.isSome_iff_exists, hfind, exists_eq_left, List.length_findIdxs]
        rfl
      increasing := fun id ps hps => by
        rw [((hfind id ps).1 hps).1]
        exact List.pairwise_findIdxs
      mem := fun id ps hps i => by
        rw [((hfind id ps).1 hps).1, List.mem_findIdxs_iff_exists_getElem_pos]
        simp [List.getElem?_eq_some_iff] }

/-- A record that had an id twice would be correlated with itself. -/
example : correlate [⟨0, "", "", ["a", "a"], .left⟩] = [("a", [0, 0])] := by decide

/-- **The records that share an id are correlated, and no others.** Whatever values the ids are read
from, no record has an id twice; so the groups are those of the annotations. -/
theorem correlates_annotate (rs : List Record) (a : Annotators) (align : String → Align) :
    (∀ v : Value, (idsOf v).Nodup) ∧
      (∀ x ∈ (annotate rs a align).1, x.ids.Nodup) ∧
      Correlates (correlate (annotate rs a align).1) (annotate rs a align).1 :=
  ⟨nodup_idsOf, fun _ => nodup_ids_annotate, correlates_correlate fun _ => nodup_ids_annotate⟩

end Logbook
