import Mathlib.Data.List.Induction
import Mathlib.Data.List.Perm.Basic
import Logbook.Keyed

/-!
# Sorted association lists as sets of pairs

* `Keyed.insert_perm`, `Keyed.ofList_perm`: writing at a new key, and collecting pairs with
  different keys, only change the order;
* `Keyed.Sorted.eq_of_perm`: the order is determined by the pairs;
* **`Keyed.Sorted.find?_eq_some_iff`**: what is found in a sorted list is what stands in it;
* `Keyed.Sorted.find?_filter`: leaving out pairs of a sorted list leaves out what is found there;
* `Keyed.find?_ofList_eq_some_iff`: what is found among collected pairs.
-/

namespace Logbook.Keyed

variable {α : Type} {k : String} {v : α} {l l' : Keyed α}

/-! ## Pairs after writing -/

theorem mem_of_mem_insert {m : String × α} (h : m ∈ insert k v l) : m = (k, v) ∨ m ∈ l := by
  induction l with
  | nil => exact .inl (List.mem_singleton.mp h)
  | cons p rest ih =>
    obtain ⟨k₁, v₁⟩ := p
    unfold insert at h
    split at h
    · exact List.mem_cons.mp h
    · split at h
      · exact (List.mem_cons.mp h).imp_right (List.mem_cons_of_mem _)
      · rcases List.mem_cons.mp h with rfl | h
        · exact .inr List.mem_cons_self
        · exact (ih h).imp_right (List.mem_cons_of_mem _)

theorem ofList_concat (l : List (String × α)) (p : String × α) :
    ofList (l ++ [p]) = insert p.1 p.2 (ofList l) := by
  rw [ofList, List.foldl_append]
  rfl

theorem mem_of_mem_ofList {l : List (String × α)} {m : String × α} (h : m ∈ ofList l) : m ∈ l := by
  induction l using List.reverseRecOn with
  | nil => exact h
  | append_singleton l p ih =>
    rw [ofList_concat] at h
    rcases mem_of_mem_insert h with rfl | h
    · exact List.mem_append_right _ List.mem_cons_self
    · exact List.mem_append_left _ (ih h)

theorem insert_perm (v : α) (h : k ∉ l.map Prod.fst) : (insert k v l).Perm ((k, v) :: l) := by
  induction l with
  | nil => exact .refl _
  | cons p rest ih =>
    obtain ⟨k₁, v₁⟩ := p
    obtain ⟨hne, hrest⟩ := List.ne_and_not_mem_of_not_mem_cons h
    rw [insert]
    by_cases hlt : k < k₁
    · rw [if_pos hlt]
    · rw [if_neg hlt, if_neg hne]
      exact ((ih hrest).cons _).trans (.swap _ _ _)

theorem ofList_perm {l : List (String × α)} (h : (l.map Prod.fst).Nodup) : (ofList l).Perm l := by
  induction l using List.reverseRecOn with
  | nil => exact .refl _
  | append_singleton l p ih =>
    rw [List.map_append, List.nodup_append] at h
    obtain ⟨hl, -, hdisjoint⟩ := h
    have hperm := ih hl
    have hnew : p.1 ∉ (ofList l).map Prod.fst := fun hmem =>
      hdisjoint p.1 ((hperm.map Prod.fst).mem_iff.1 hmem) p.1 List.mem_cons_self rfl
    rw [ofList_concat]
    exact (insert_perm p.2 hnew).trans ((hperm.cons p).trans (List.perm_append_singleton p l).symm)

/-! ## Looking up -/

theorem find?_eq_none_iff : find? k l = none ↔ k ∉ l.map Prod.fst := by
  induction l with
  | nil => simp
  | cons p rest ih =>
    obtain ⟨k₁, v₁⟩ := p
    rw [find?, List.map_cons, List.mem_cons]
    by_cases hk : k = k₁ <;> simp [hk, ih]

namespace Sorted

theorem nodup_keys (h : Sorted l) : (l.map Prod.fst).Nodup :=
  List.pairwise_map.2 (List.Pairwise.imp (fun hlt => String.ne_of_lt hlt) h)

theorem map {β : Type} (h : Sorted l) (f : α → β) : Sorted (l.map fun p => (p.1, f p.2)) :=
  List.pairwise_map.2 h

/-- The order is a matter of the keys. -/
theorem of_keys {β : Type} {l' : Keyed β} (h : Sorted l)
    (hkeys : l'.map Prod.fst = l.map Prod.fst) :
    Sorted l' := by
  have hlt : (l.map Prod.fst).Pairwise (· < ·) := List.pairwise_map.2 h
  rw [← hkeys] at hlt
  exact List.pairwise_map.1 hlt

/-- The order is determined by the pairs. -/
theorem eq_of_perm (h : Sorted l) (h' : Sorted l') (hperm : l.Perm l') : l = l' :=
  hperm.eq_of_pairwise (fun _ _ _ _ hab hba => absurd hba (String.lt_asymm hab)) h h'

/-- **What is found in a sorted list is what stands in it.** -/
theorem find?_eq_some_iff (h : Sorted l) : find? k l = some v ↔ (k, v) ∈ l := by
  induction l with
  | nil => simp
  | cons p rest ih =>
    obtain ⟨k₁, v₁⟩ := p
    obtain ⟨hfirst, hrest⟩ := List.pairwise_cons.1 h
    rw [find?, List.mem_cons, Prod.mk.injEq]
    by_cases hk : k = k₁
    · subst hk
      have hnot : (k, v) ∉ rest := fun hmem => String.lt_irrefl k (hfirst _ hmem)
      simp [hnot, eq_comm]
    · rw [if_neg hk, ih hrest]
      simp [hk]

theorem find?_filter (h : Sorted l) (p : String × α → Bool) :
    find? k (l.filter p) = (find? k l).filter fun v => p (k, v) := by
  have hfilter : Sorted (l.filter p) := List.Pairwise.filter p h
  ext v
  rw [hfilter.find?_eq_some_iff, List.mem_filter, Option.filter_eq_some_iff, h.find?_eq_some_iff]

end Sorted

theorem find?_ofList_eq_some_iff {l : List (String × α)} (hl : (l.map Prod.fst).Nodup) :
    find? k (ofList l) = some v ↔ (k, v) ∈ l := by
  rw [(sorted_ofList l).find?_eq_some_iff, (ofList_perm hl).mem_iff]

end Logbook.Keyed
