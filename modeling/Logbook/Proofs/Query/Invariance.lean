import Mathlib.Data.List.Nodup
import Logbook.Proofs.Query.Selection

/-!
# What a selection depends on

A selection is determined by what it has to be, and that speaks of the records as a set and of the
window as a test.

* `Record.Within`, `Window.guard`: a window as a condition on records, and as part of a test;
* `Selection.Selects`: what a selection has to be;
* `Selection.Selects.unique`: no two selections are that;
* `Selection.Selects.of_perm`, `Selection.Selects.of_guard`: the order of the records does not
  matter to it, nor whether the window or the test rejects a record;
* **`select_invariant`**: so they do not matter to `select`.
-/

namespace Logbook

variable {ε : Type} {rs rs' : List Record} {test : Record → Except ε Bool} {w : Window}

/-! ## Windows as tests -/

/-- The record has a time from the start on, where a start is set, and a time up to the end, where
an end is set. -/
def Record.Within (w : Window) (r : Record) : Prop :=
  (∀ s, w.start = some s → ∃ t, r.time = some t ∧ s ≤ t) ∧
    ∀ e, w.finish = some e → ∃ t, r.time = some t ∧ t ≤ e

instance (w : Window) (r : Record) : Decidable (r.Within w) := decidable_of_iff _ admits_iff

/-- The test that first rejects the records outside a window. -/
def Window.guard (w : Window) (test : Record → Except ε Bool) (r : Record) : Except ε Bool :=
  if r.Within w then test r else .ok false

theorem within_unbounded (r : Record) : r.Within {} :=
  ⟨fun _ h => absurd h (by simp), fun _ h => absurd h (by simp)⟩

theorem guard_eq_true {r : Record} :
    w.guard test r = .ok true ↔ r.Within w ∧ test r = .ok true := by
  unfold Window.guard
  split
  · next h => simp [h]
  · next h => simp [h]

theorem guard_eq_error {r : Record} {e : ε} :
    w.guard test r = .error e ↔ r.Within w ∧ test r = .error e := by
  unfold Window.guard
  split
  · next h => simp [h]
  · next h => simp [h]

theorem keeps_iff {r : Record} :
    keeps test r = true ↔ test r = .ok true ∨ ∃ e, test r = .error e := by
  unfold keeps
  cases test r with
  | ok b => simp
  | error e => simp

/-! ## What a selection has to be -/

theorem Record.Before.asymm {r r' : Record} (h : r.Before r') : ¬ r'.Before r := by
  unfold Record.Before at *
  cases hr : r.time with
  | none =>
    cases hr' : r'.time with
    | none =>
      simp only [hr, hr'] at h ⊢
      exact Nat.lt_asymm h
    | some t => simp [hr, hr'] at h
  | some s =>
    cases hr' : r'.time with
    | none => simp
    | some t =>
      simp only [hr, hr'] at h ⊢
      rintro (hlt | ⟨rfl, hidx⟩)
      · rcases h with hlt' | ⟨rfl, -⟩
        · exact Int.lt_asymm hlt hlt'
        · exact Int.lt_irrefl _ hlt
      · rcases h with hlt' | ⟨-, hidx'⟩
        · exact Int.lt_irrefl _ hlt'
        · exact Nat.lt_asymm hidx hidx'

/-- **The selection of the records of a window that a test keeps.** -/
structure Selection.Selects (rs : List Record) (test : Record → Except ε Bool) (w : Window)
    (o : Selection ε) : Prop where
  /-- A record is kept if the test holds or fails. -/
  mem_records : ∀ r, r ∈ o.records ↔
    r ∈ rs ∧ r.Within w ∧ (test r = .ok true ∨ ∃ e, test r = .error e)
  /-- No record comes twice. -/
  nodup : o.records.Nodup
  /-- By time, the timeless last, and as they were read where the time is the same. -/
  ordered : o.records.Pairwise Record.Before
  /-- The error is that of the first record read on which the test fails. -/
  first_error : ∀ e, o.firstError = some e ↔ ∃ r ∈ rs, r.Within w ∧ test r = .error e ∧
    ∀ r' ∈ rs, r'.Within w → ∀ e', test r' = .error e' → r.index ≤ r'.index

theorem selects_select (h : (rs.map Record.index).Nodup) :
    (select rs test w).Selects rs test w where
  mem_records r := by rw [mem_select, admits_iff, keeps_iff, Record.Within]
  nodup := (nodup_index_select h).of_map Record.index
  ordered := pairwise_before_select h
  first_error e := by simp only [firstError_select h, admits_iff, Record.Within]

namespace Selection.Selects

variable {a b : Selection ε}

/-- **A selection is determined by what it has to be.** -/
theorem unique (ha : a.Selects rs test w) (hb : b.Selects rs test w) : a = b := by
  have hperm : a.records.Perm b.records :=
    (List.perm_ext_iff_of_nodup ha.nodup hb.nodup).mpr fun r =>
      (ha.mem_records r).trans (hb.mem_records r).symm
  have hrecords : a.records = b.records :=
    List.Perm.eq_of_pairwise (fun _ _ _ _ hab hba => absurd hba hab.asymm)
      ha.ordered hb.ordered hperm
  have herror : a.firstError = b.firstError :=
    Option.ext fun e => (ha.first_error e).trans (hb.first_error e).symm
  cases a
  cases b
  simp_all

/-- The order of the records does not matter. -/
theorem of_perm (hperm : rs'.Perm rs) (ha : a.Selects rs' test w) : a.Selects rs test w where
  mem_records r := by rw [ha.mem_records, hperm.mem_iff]
  nodup := ha.nodup
  ordered := ha.ordered
  first_error e := by simp only [ha.first_error, hperm.mem_iff]

/-- It does not matter whether the window or the test rejects a record. -/
theorem of_guard (ha : a.Selects rs (w.guard test) {}) : a.Selects rs test w where
  mem_records r := by
    rw [ha.mem_records, guard_eq_true]
    simp only [guard_eq_error, within_unbounded, true_and, exists_and_left, ← and_or_left]
  nodup := ha.nodup
  ordered := ha.ordered
  first_error e := by
    simp only [ha.first_error, guard_eq_error, within_unbounded, true_and, true_implies, and_imp,
      and_assoc]
    refine exists_congr fun r => and_congr_right fun _ => and_congr_right fun _ =>
      and_congr_right fun _ => ?_
    exact forall₂_congr fun r' _ => forall_comm

end Selection.Selects

/-- **A selection does not depend on the order of the records**, where no two have one number, nor
on whether the window or the test rejects a record; it is what it has to be. -/
theorem select_invariant (h : (rs.map Record.index).Nodup) (test : Record → Except ε Bool)
    (w : Window) :
    (∀ rs', rs'.Perm rs → select rs' test w = select rs test w) ∧
      select rs (w.guard test) {} = select rs test w ∧ (select rs test w).Selects rs test w := by
  refine ⟨fun rs' hperm => ?_, ?_, selects_select h⟩
  · have h' : (rs'.map Record.index).Nodup := (hperm.map Record.index).nodup_iff.mpr h
    exact ((selects_select h').of_perm hperm).unique (selects_select h)
  · exact (selects_select h).of_guard.unique (selects_select h)

/-- Three records in another order than they were read: a timeless one, on which the test fails,
stays outside the window, and of two with one time the test fails on the later one. -/
theorem select_invariant_tie :
    let timeless : Record := { log := "a", message := "", line := "", body := "", index := 0 }
    let late : Record := { timeless with time := some ⟨5000, by decide⟩, index := 2 }
    let early : Record := { late with index := 1 }
    let test : Record → Except String Bool := fun r =>
      if r.index = 1 then .ok true else .error "no"
    let w : Window := { start := some ⟨5000, by decide⟩ }
    ([timeless, early, late].map Record.index).Nodup ∧
      [late, timeless, early].Perm [timeless, early, late] ∧
      select [late, timeless, early] test w =
        { records := [early, late], firstError := some "no" } := by
  intro timeless late early test w
  have hnodup : ([timeless, early, late].map Record.index).Nodup := by decide
  have hperm : [late, timeless, early].Perm [timeless, early, late] :=
    (List.Perm.swap timeless late [early]).trans ((List.Perm.swap early late []).cons timeless)
  have hread : [timeless, early, late].mergeSort indexOrder = [timeless, early, late] :=
    List.mergeSort_of_pairwise (by decide)
  have htime : [early, late].mergeSort timeOrder = [early, late] :=
    List.mergeSort_of_pairwise (by decide)
  have hselect : select [timeless, early, late] test w =
      { records := [early, late], firstError := some "no" } := by
    unfold select
    rw [hread]
    exact congrArg (Selection.mk · (some "no")) htime
  exact ⟨hnodup, hperm, ((select_invariant hnodup test w).1 _ hperm).trans hselect⟩

end Logbook
