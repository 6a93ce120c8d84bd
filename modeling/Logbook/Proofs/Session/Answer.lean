import Logbook.Proofs.Query.Selection
import Logbook.Proofs.Session.Reading
import Logbook.Proofs.Time.Bounds
import Logbook.Proofs.View.Correlation

/-!
# Answers to queries

* `Session.Shows`, `Session.InWindow`, `Query.Keeps`: what a query asks of a record;
* `Session.Answers`: what an outcome has to be to answer a query;
* `keeps_testOf`, `admits_windowOf`: the test and the window of a query ask just that;
* **`answers_query`**: whatever a session has read, `Session.query` answers every query.
-/

namespace Logbook

/-! ## What a query asks -/

/-- The log of a record is visible: so the query says, or it says nothing and the log is small. -/
def Session.Shows (s : Session) (q : Query) (r : Record) : Prop :=
  match Keyed.find? r.log q.logViews with
  | some v => v.visible = true
  | none => (s.recordsOf r.log).length < s.view.thresholdForVisible

/-- A record has a time from the start on, if the query has one, and up to the end, if it has
one. -/
def Session.InWindow (s : Session) (q : Query) (r : Record) : Prop :=
  (∀ t, (Control.bounds q.start q.finish s.reference).1 = .ok (some t) →
      ∃ u, r.time = some u ∧ t ≤ u) ∧
    ∀ t, (Control.bounds q.start q.finish s.reference).2 = .ok (some t) →
      ∃ u, r.time = some u ∧ u ≤ t

/-- The filter is blank, or true of a record, or fails on it. -/
def Query.Keeps (q : Query) (r : Record) : Prop :=
  Text.isAllBlank q.filter.toList = true ∨
    (∃ v, (compile q.filter).eval r = .ok v ∧ v.isTruthy = true) ∨
    ∃ e, (compile q.filter).eval r = .error e

/-- **What answers a query.** -/
structure Session.Answers (s : Session) (q : Query) (o : Outcome) : Prop where
  mem_records : ∀ r, r ∈ o.records ↔ r ∈ s.records ∧ s.Shows q r ∧ s.InWindow q r ∧ q.Keeps r
  /-- No record comes twice. -/
  nodup : (o.records.map Record.index).Nodup
  ordered : o.records.Pairwise Record.Before
  /-- The error is that of the first record read on which the filter fails. -/
  filter_error : ∀ e, o.errors.filter = some e ↔ ∃ r ∈ s.records,
    s.Shows q r ∧ s.InWindow q r ∧ (compile q.filter).eval r = .error e ∧
      ∀ r' ∈ s.records, s.Shows q r' → s.InWindow q r' →
        ∀ e', (compile q.filter).eval r' = .error e' → r.index ≤ r'.index
  no_filter_error : o.errors.filter = none ↔ ∀ r ∈ s.records,
    s.Shows q r → s.InWindow q r → ∃ v, (compile q.filter).eval r = .ok v
  /-- Annotation by annotation there is a record. -/
  parallel : o.annotations.map Annotation.index = o.records.map Record.index

/-! ## Visible logs -/

theorem mem_logs {s : Session} {r : Record} (h : r ∈ s.records) : r.log ∈ s.logs :=
  mem_dedup.mpr ⟨List.mem_map_of_mem h, List.not_mem_nil⟩

theorem lookup_map_of_mem {α : Type} {l : List String} (f : String → α) {k : String}
    (h : k ∈ l) : (l.map fun x => (x, f x)).lookup k = some (f k) := by
  induction l with
  | nil => cases h
  | cons x xs ih =>
    rw [List.map_cons, List.lookup_cons]
    by_cases hk : k = x
    · rw [hk, beq_self_eq_true]
    · rw [beq_eq_false_iff_ne.mpr hk]
      exact ih ((List.mem_cons.mp h).resolve_left hk)

/-- The views of a query tell whether the log of a record is visible. -/
theorem visible_iff_shows {s : Session} {q : Query} {r : Record} (h : r ∈ s.records) :
    (((s.logViews q).lookup r.log).map LogView.visible).getD false = true ↔ s.Shows q r := by
  unfold Session.logViews Session.Shows
  rw [lookup_map_of_mem _ (mem_logs h), Option.map_some, Option.getD_some]
  cases Keyed.find? r.log q.logViews with
  | some v => rfl
  | none =>
    simp only [Option.getD_none, Session.defaultLogView, ViewDefaults.logView, decide_eq_true_eq]

/-! ## The test and the window -/

theorem isBlank_compile (source : String) :
    (compile source).isBlank = Text.isAllBlank source.toList := by
  unfold Compiled.isBlank compile
  cases h : Text.isAllBlank source.toList with
  | true => rfl
  | false =>
    simp only [Bool.false_eq_true, if_false]
    cases Expr.tokenize source.toList with
    | error e => rfl
    | ok tokens =>
      rw [show (Except.ok tokens >>= fun ts => do
        let e ← Expr.parse ts
        Except.ok (some e)) = (Expr.parse tokens >>= fun e => Except.ok (some e)) from rfl]
      cases Expr.parse tokens <;> rfl

theorem eval_of_blank {source : String} (h : Text.isAllBlank source.toList = true) (r : Record) :
    (compile source).eval r = .ok .undefined := by
  simp only [Compiled.eval, compile, h, if_true]

/-- The test of a query. -/
abbrev Session.testOf (s : Session) (q : Query) : Record → Except ExprError Bool :=
  Session.queryTest (s.logViews q) (compile q.filter)

theorem testOf_of_not_shows {s : Session} {q : Query} {r : Record} (h : r ∈ s.records)
    (hs : ¬ s.Shows q r) : s.testOf q r = .ok false := by
  rw [Session.testOf, Session.queryTest, if_neg (mt (visible_iff_shows h).mp hs)]

theorem testOf_of_shows {s : Session} {q : Query} {r : Record} (h : r ∈ s.records)
    (hs : s.Shows q r) : s.testOf q r =
      if Text.isAllBlank q.filter.toList then .ok true else (compile q.filter).test r := by
  rw [Session.testOf, Session.queryTest, if_pos ((visible_iff_shows h).mpr hs), isBlank_compile]

/-- The test keeps the records of visible logs that the filter keeps. -/
theorem keeps_testOf {s : Session} {q : Query} {r : Record} (h : r ∈ s.records) :
    keeps (s.testOf q) r = true ↔ s.Shows q r ∧ q.Keeps r := by
  by_cases hs : s.Shows q r
  · unfold keeps Query.Keeps
    rw [testOf_of_shows h hs]
    by_cases hb : Text.isAllBlank q.filter.toList = true
    · simp [hs, hb]
    · simp only [hs, hb, true_and, Compiled.test]
      cases (compile q.filter).eval r with
      | ok v => simp [Except.map]
      | error e => simp [Except.map]
  · simp [keeps, testOf_of_not_shows h hs, hs]

theorem testOf_eq_error {s : Session} {q : Query} {r : Record} (h : r ∈ s.records)
    {e : ExprError} : s.testOf q r = .error e ↔
      s.Shows q r ∧ (compile q.filter).eval r = .error e := by
  by_cases hs : s.Shows q r
  · rw [testOf_of_shows h hs]
    by_cases hb : Text.isAllBlank q.filter.toList = true
    · simp [hb, eval_of_blank hb r]
    · rw [if_neg hb, Compiled.test]
      cases (compile q.filter).eval r with
      | ok v => simp [Except.map]
      | error e => simp [Except.map, hs]
  · simp [testOf_of_not_shows h hs, hs]

/-- The window of a query. -/
abbrev Session.windowOf (s : Session) (q : Query) : Window :=
  ⟨Control.bound (Control.bounds q.start q.finish s.reference).1,
    Control.bound (Control.bounds q.start q.finish s.reference).2⟩

theorem admits_windowOf {s : Session} {q : Query} {r : Record} :
    (s.windowOf q).admits r = true ↔ s.InWindow q r := by
  simp only [admits_iff, Session.InWindow, Control.bound_eq_some]

/-! ## The answer -/

theorem records_query (s : Session) (q : Query) :
    (s.query q).records = (select s.records (s.testOf q) (s.windowOf q)).records := rfl

theorem filter_errors_query (s : Session) (q : Query) :
    (s.query q).errors.filter = (select s.records (s.testOf q) (s.windowOf q)).firstError := rfl

theorem map_index_annotations_query (s : Session) (q : Query) :
    (s.query q).annotations.map Annotation.index = (s.query q).records.map Record.index := by
  simp only [Session.query, annotate, List.map_map]
  rfl

/-- The error of a query, where every record has a number of its own. -/
theorem filter_error_query {s : Session} (h : (s.records.map Record.index).Nodup) (q : Query)
    (e : ExprError) : (s.query q).errors.filter = some e ↔ ∃ r ∈ s.records,
      s.Shows q r ∧ s.InWindow q r ∧ (compile q.filter).eval r = .error e ∧
        ∀ r' ∈ s.records, s.Shows q r' → s.InWindow q r' →
          ∀ e', (compile q.filter).eval r' = .error e' → r.index ≤ r'.index := by
  rw [filter_errors_query, firstError_select h]
  refine exists_congr fun r => and_congr_right fun hr => ?_
  rw [admits_windowOf, testOf_eq_error hr, and_assoc, and_left_comm]
  refine and_congr_right fun _ => and_congr_right fun _ => and_congr_right fun _ => ?_
  refine forall_congr' fun r' => forall_congr' fun hr' => ?_
  simp only [admits_windowOf, testOf_eq_error hr', and_imp]
  exact ⟨fun hmin hs hw e' he => hmin hw e' hs he, fun hmin hw e' hs he => hmin hs hw e' he⟩

theorem no_filter_error_query {s : Session} (q : Query) :
    (s.query q).errors.filter = none ↔ ∀ r ∈ s.records,
      s.Shows q r → s.InWindow q r → ∃ v, (compile q.filter).eval r = .ok v := by
  rw [filter_errors_query]
  simp only [select, firstError?, List.findSome?_eq_none_iff, List.mem_filter, List.mem_mergeSort,
    and_imp, admits_windowOf]
  refine forall_congr' fun r => forall_congr' fun hr => ?_
  have hok : errorOf? (s.testOf q r) = none ↔
      (s.Shows q r → ∃ v, (compile q.filter).eval r = .ok v) := by
    simp only [Option.eq_none_iff_forall_ne_some, ne_eq, errorOf?_eq_some, testOf_eq_error hr]
    cases (compile q.filter).eval r with
    | ok v => simp
    | error e => simp
  rw [hok]
  exact forall_comm

/-- **Every query is answered**: of all that a session has read, it shows the records of visible
logs within the window that the filter keeps, in order, and the first error of the filter. -/
theorem answers_query (view : ViewDefaults) (readings : List Reading) (q : Query) :
    (Session.ofReadings view readings).Answers q ((Session.ofReadings view readings).query q) := by
  have h : ((Session.ofReadings view readings).records.map Record.index).Nodup := by
    rw [Session.map_index_ofReadings]
    exact List.nodup_range
  exact
    { mem_records := fun r => by
        rw [records_query, mem_select]
        refine and_congr_right fun hr => ?_
        rw [admits_windowOf, keeps_testOf hr, and_left_comm]
      nodup := nodup_index_select h
      ordered := pairwise_before_select h
      filter_error := filter_error_query h q
      no_filter_error := no_filter_error_query q
      parallel := map_index_annotations_query _ q }

end Logbook
