import Logbook.Query.Select

/-!
# What a selection selects

* `Record.Before`: the order of a selection, by time with the timeless last, then as read;
* `mem_select`: the selected records are those of the window that the test keeps;
* **`pairwise_before_select`**: they stand in that order;
* **`firstError_select`**: the error is that of the first record read on which the test fails.
-/

namespace Logbook

/-- `a` has an earlier time than `b`, or a time where `b` has none, or no other time and was read
before `b`. -/
def Record.Before (a b : Record) : Prop :=
  match a.time, b.time with
  | some s, some t => s < t ∨ s = t ∧ a.index < b.index
  | some _, none => True
  | none, some _ => False
  | none, none => a.index < b.index

/-! ## Orders -/

theorem timeOrder_trans (a b c : Record) (hab : timeOrder a b = true) (hbc : timeOrder b c = true) :
    timeOrder a c = true := by
  unfold timeOrder at *
  cases ha : a.time <;> cases hb : b.time <;> cases hc : c.time <;> simp_all
  exact Int.le_trans hab hbc

theorem timeOrder_total (a b : Record) : (timeOrder a b || timeOrder b a) = true := by
  unfold timeOrder
  cases ha : a.time <;> cases hb : b.time <;> simp
  exact Int.le_total _ _

theorem indexOrder_trans (a b c : Record) (hab : indexOrder a b = true)
    (hbc : indexOrder b c = true) : indexOrder a c = true := by
  simp only [indexOrder, decide_eq_true_eq] at *
  omega

theorem indexOrder_total (a b : Record) : (indexOrder a b || indexOrder b a) = true := by
  simp only [indexOrder, Bool.or_eq_true, decide_eq_true_eq]
  omega

/-- Records that come after each other in time have the same time. -/
theorem time_eq_of_timeOrder {a b : Record} (hab : timeOrder a b = true)
    (hba : timeOrder b a = true) : a.time = b.time := by
  unfold timeOrder at *
  cases ha : a.time <;> cases hb : b.time <;> simp_all
  exact Instant.ext_millis (Int.le_antisymm hab hba)

theorem before_of_timeOrder {a b : Record} (hab : timeOrder a b = true)
    (htie : timeOrder b a = true → a.index < b.index) : a.Before b := by
  by_cases hba : timeOrder b a = true
  · have ht := time_eq_of_timeOrder hab hba
    unfold Record.Before
    rw [ht]
    cases b.time with
    | none => exact htie hba
    | some t => exact .inr ⟨rfl, htie hba⟩
  · unfold timeOrder Record.Before at *
    cases ha : a.time <;> cases hb : b.time <;> simp_all
    exact .inl (Int.not_le.mp hba)

/-! ## Sorting by time -/

/-- Sorting by time leaves records of one time as they were. -/
theorem sublist_of_tie {l : List Record} {a b : Record} (hba : timeOrder b a = true)
    (hab : [a, b].Sublist (l.mergeSort timeOrder)) (hle : timeOrder a b = true) :
    [a, b].Sublist l := by
  -- The records of that time are a sorted part of `l`, so they are that part of the sorted list.
  let tied := fun r : Record => timeOrder a r && timeOrder r a
  have hsorted : (l.filter tied).Pairwise fun r r' => timeOrder r r' = true := by
    refine List.pairwise_of_forall_mem_list fun r hr r' hr' => ?_
    simp only [tied, List.mem_filter, Bool.and_eq_true] at hr hr'
    exact timeOrder_trans r a r' hr.2.2 hr'.2.1
  have hsub := List.sublist_mergeSort timeOrder_trans timeOrder_total hsorted List.filter_sublist
  have heq : l.filter tied = (l.mergeSort timeOrder).filter tied := by
    refine List.Sublist.eq_of_length ?_
      ((List.mergeSort_perm l timeOrder).symm.filter tied).length_eq
    simpa only [List.filter_filter, Bool.and_self] using hsub.filter tied
  have htied : [a, b].filter tied = [a, b] := by
    have haa : timeOrder a a = true := timeOrder_trans a b a hle hba
    simp [tied, haa, hle, hba]
  rw [← htied]
  exact (heq ▸ hab.filter tied).trans List.filter_sublist

/-- **Sorting records by time** that stand as they were read puts each before the next ones. -/
theorem pairwise_before_mergeSort {l : List Record}
    (h : l.Pairwise fun a b => a.index < b.index) :
    (l.mergeSort timeOrder).Pairwise Record.Before := by
  have hsorted := List.pairwise_mergeSort timeOrder_trans timeOrder_total l
  refine List.pairwise_iff_forall_sublist.mpr fun {a b} hab => ?_
  have hle := List.pairwise_iff_forall_sublist.mp hsorted hab
  refine before_of_timeOrder hle fun hba => ?_
  exact List.pairwise_iff_forall_sublist.mp h (sublist_of_tie hba hab hle)

/-! ## Selections -/

variable {ε : Type} {rs : List Record} {test : Record → Except ε Bool} {w : Window}

theorem admits_iff {w : Window} {r : Record} : w.admits r = true ↔
    (∀ t, w.start = some t → ∃ u, r.time = some u ∧ t ≤ u) ∧
      ∀ t, w.finish = some t → ∃ u, r.time = some u ∧ u ≤ t := by
  obtain ⟨start, finish⟩ := w
  unfold Window.admits
  cases start <;> cases finish <;> cases r.time <;> simp

theorem mem_select {r : Record} : r ∈ (select rs test w).records ↔
    r ∈ rs ∧ w.admits r = true ∧ keeps test r = true := by
  simp only [select, List.mem_mergeSort, List.mem_filter, and_assoc]

theorem pairwise_index_mergeSort (h : (rs.map Record.index).Nodup) :
    (rs.mergeSort indexOrder).Pairwise fun a b => a.index < b.index := by
  have hle := List.pairwise_mergeSort indexOrder_trans indexOrder_total rs
  have hne : (rs.mergeSort indexOrder).Pairwise fun a b => a.index ≠ b.index := by
    refine List.pairwise_map.mp ?_
    exact ((List.mergeSort_perm rs indexOrder).map Record.index).nodup_iff.mpr h
  refine (hle.and hne).imp fun {a b} hab => ?_
  have := of_decide_eq_true hab.1
  have := hab.2
  omega

theorem pairwise_before_select (h : (rs.map Record.index).Nodup) :
    (select rs test w).records.Pairwise Record.Before :=
  pairwise_before_mergeSort (((pairwise_index_mergeSort h).filter _).filter _)

theorem nodup_index_select (h : (rs.map Record.index).Nodup) :
    ((select rs test w).records.map Record.index).Nodup := by
  have hcand := ((pairwise_index_mergeSort h).filter w.admits).filter (keeps test)
  have hnodup := List.pairwise_map.mpr (hcand.imp fun {a b} hab => Nat.ne_of_lt hab)
  exact ((List.mergeSort_perm _ timeOrder).map Record.index).nodup_iff.mpr hnodup

/-! ## The first error -/

theorem errorOf?_eq_some {α : Type} {x : Except ε α} {e : ε} :
    errorOf? x = some e ↔ x = .error e := by
  cases x <;> simp [errorOf?]

theorem firstError?_eq_some {α : Type} {f : Record → Except ε α} {l : List Record} {e : ε}
    (h : l.Pairwise fun a b => a.index < b.index) :
    firstError? f l = some e ↔ ∃ r ∈ l, f r = .error e ∧
      ∀ r' ∈ l, ∀ e', f r' = .error e' → r.index ≤ r'.index := by
  induction l with
  | nil => simp [firstError?]
  | cons a l ih =>
    obtain ⟨ha, hl⟩ := List.pairwise_cons.mp h
    cases hfa : f a with
    | error e₁ =>
      simp only [firstError?, List.findSome?_cons, hfa, errorOf?, Option.some.injEq]
      constructor
      · rintro rfl
        refine ⟨a, List.mem_cons_self, hfa, fun r' hr' _ _ => ?_⟩
        rcases List.mem_cons.mp hr' with rfl | hr'
        · exact Nat.le_refl _
        · exact Nat.le_of_lt (ha r' hr')
      · rintro ⟨r, hr, hfr, hmin⟩
        rcases List.mem_cons.mp hr with rfl | hr
        · exact Except.error.inj (hfa.symm.trans hfr)
        · exact absurd (hmin a List.mem_cons_self e₁ hfa) (Nat.not_le.mpr (ha r hr))
    | ok b =>
      simp only [firstError?, List.findSome?_cons, hfa, errorOf?]
      refine (ih hl).trans ?_
      simp only [List.mem_cons, exists_eq_or_imp, forall_eq_or_imp, hfa, reduceCtorEq,
        false_and, false_or, false_implies, implies_true, true_and]

/-- **The error of a selection** is that of the first record read in the window on which the test
fails. -/
theorem firstError_select (h : (rs.map Record.index).Nodup) {e : ε} :
    (select rs test w).firstError = some e ↔ ∃ r ∈ rs, w.admits r = true ∧ test r = .error e ∧
      ∀ r' ∈ rs, w.admits r' = true → ∀ e', test r' = .error e' → r.index ≤ r'.index := by
  refine (firstError?_eq_some ((pairwise_index_mergeSort h).filter w.admits)).trans ?_
  simp only [List.mem_filter, List.mem_mergeSort, and_assoc, and_imp]

end Logbook
