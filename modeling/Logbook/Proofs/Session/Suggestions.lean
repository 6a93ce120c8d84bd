import Mathlib.Data.List.Basic
import Mathlib.Data.List.Forall2
import Mathlib.Data.Set.Basic
import Mathlib.Order.Bounds.Defs
import Logbook.Proofs.Session.Answer
import Logbook.Proofs.Time.Anchoring
import Logbook.Proofs.Time.Controls

/-!
# Times to choose from

A session suggests texts for its time controls: the earliest and the latest time of all its records,
and those of each log.

* `Session.ReadAs`, `Session.timesOf`: what a control is read as, and the times that records have;
* `Session.TimedLogs`: the logs with a time, in the order in which logs first come up;
* `Session.Suggests`, `Session.Offers`: what suggestions for one end, and for both, have to be;
* `mem_query_of_asks`: what a query shows between two controls that are read as instants;
* **`offers_suggestions`**: the suggestions of every session are such.
-/

namespace Logbook

/-! ## The latest of some instants -/

namespace Instant

theorem le_max_left (a b : Instant) : a ≤ a.max b := by
  unfold max
  split
  · assumption
  · exact Instant.le_refl a

theorem le_max_right (a b : Instant) : b ≤ a.max b := by
  unfold max
  split
  · exact Instant.le_refl b
  · next h => exact Int.le_of_lt (Int.not_le.mp h)

theorem max_eq_or (a b : Instant) : a.max b = a ∨ a.max b = b := by
  unfold max
  split
  · exact .inr rfl
  · exact .inl rfl

end Instant

theorem latest?_eq_none {ts : List Instant} : latest? ts = none ↔ ts = [] := by
  cases ts with
  | nil => simp [latest?]
  | cons t ts => cases h : latest? ts <;> simp [latest?, h]

theorem isGreatest_of_latest? {ts : List Instant} {m : Instant} (h : latest? ts = some m) :
    IsGreatest {t | t ∈ ts} m := by
  induction ts generalizing m with
  | nil => exact absurd h (by simp [latest?])
  | cons t ts ih =>
    cases hts : latest? ts with
    | none =>
      rw [latest?, hts] at h
      obtain rfl := Option.some.inj h
      obtain rfl := latest?_eq_none.mp hts
      exact ⟨List.mem_cons_self, fun u hu => List.mem_singleton.mp hu ▸ Instant.le_refl _⟩
    | some u =>
      rw [latest?, hts] at h
      obtain rfl := Option.some.inj h
      obtain ⟨hmem, hle⟩ := ih hts
      refine ⟨?_, fun v hv => ?_⟩
      · rcases Instant.max_eq_or t u with heq | heq
        · rw [heq]; exact List.mem_cons_self
        · rw [heq]; exact List.mem_cons_of_mem t hmem
      · rcases List.mem_cons.mp hv with rfl | hv
        · exact Instant.le_max_left v u
        · exact Instant.le_trans (hle hv) (Instant.le_max_right t u)

theorem isLeast_of_earliest? {ts : List Instant} {m : Instant} (h : earliest? ts = some m) :
    IsLeast {t | t ∈ ts} m :=
  ⟨(of_earliest?_eq_some h).1, fun t ht => (of_earliest?_eq_some h).2 t ht⟩

/-! ## What there is to suggest -/

namespace Session

/-- A text is read as an instant, whatever the other end of the window. -/
def ReadAs (s : Session) (text : String) (t : Instant) : Prop :=
  ∀ other, Control.parse text s.reference other = .ok (some t)

/-- The times of the records that `p` holds of. -/
def timesOf (s : Session) (p : Record → Prop) : Set Instant :=
  {t | ∃ r ∈ s.records, p r ∧ r.time = some t}

/-- **The logs with a time**, in the order in which logs first come up; each of them once. -/
structure TimedLogs (s : Session) (logs : List String) : Prop where
  mem : ∀ log, log ∈ logs ↔ ∃ r ∈ s.records, r.log = log ∧ r.time.isSome = true
  inOrder : logs.Pairwise fun a b =>
    (s.records.map Record.log).idxOf a < (s.records.map Record.log).idxOf b

/-- **Suggestions for one end**: one for all records, and one for each log in turn, that is read as
the outermost time and is shown with the name of the log. -/
structure Suggests (s : Session) (IsEnd : Set Instant → Instant → Prop) (logs : List String)
    (x : Suggestion) (xs : List Suggestion) : Prop where
  whole : ∃ t, IsEnd (s.timesOf fun _ => True) t ∧ s.ReadAs x.value t
  label : x.label = x.value
  each : List.Forall₂ (fun log y => (∃ t, IsEnd (s.timesOf (·.log = log)) t ∧
    s.ReadAs y.value t) ∧ y.label = y.value ++ " - " ++ log) logs xs

/-- A query for all records, of whatever log, between two suggestions. -/
structure Asks (s : Session) (q : Query) (start finish : Suggestion) : Prop where
  filter : Text.isAllBlank q.filter.toList = true
  shows : ∀ r ∈ s.records, s.Shows q r
  start : q.start = start.value
  finish : q.finish = finish.value

/-- **What a session offers** where some record has a time: suggestions for both ends, between which
the queries for all records and for a log miss none with a time. -/
structure Offers (s : Session) (x : Suggestions) (logs : List String) (first last : Suggestion)
    (firsts lasts : List Suggestion) : Prop where
  start : x.start = first :: firsts
  finish : x.finish = last :: .plain "+5s" :: .plain "+10 minutes" :: lasts
  timed : s.TimedLogs logs
  earliest : s.Suggests IsLeast logs first firsts
  latest : s.Suggests IsGreatest logs last lasts
  all : ∀ q, s.Asks q first last →
    ∀ r, r ∈ (s.query q).records ↔ r ∈ s.records ∧ r.time.isSome = true
  ofLog : ∀ log a b, (log, a) ∈ logs.zip firsts → (log, b) ∈ logs.zip lasts → ∀ q, s.Asks q a b →
    ∀ r ∈ s.records, r.log = log → r.time.isSome = true → r ∈ (s.query q).records

variable {s : Session}

/-! ## Times of records -/

theorem mem_times_iff {t : Instant} :
    t ∈ Record.times s.records ↔ t ∈ s.timesOf fun _ => True := by
  simp [Record.times, timesOf]

theorem mem_times_recordsOf_iff {log : String} {t : Instant} :
    t ∈ Record.times (s.recordsOf log) ↔ t ∈ s.timesOf (·.log = log) := by
  simp [Record.times, recordsOf, timesOf, and_assoc]

theorem times_ne_nil_iff {rs : List Record} :
    Record.times rs ≠ [] ↔ ∃ r ∈ rs, r.time.isSome = true := by
  simp [Record.times, List.filterMap_eq_nil_iff, Option.isSome_iff_ne_none]

/-! ## Logs -/

variable (s) in
/-- The logs of which some record has a time. -/
def timedLogs : List String := s.logs.filter fun log => !(Record.times (s.recordsOf log)).isEmpty

theorem timedLogs_timedLogs : s.TimedLogs s.timedLogs where
  mem log := by
    have htimed : (!(Record.times (s.recordsOf log)).isEmpty) = true ↔
        ∃ r ∈ s.records, r.log = log ∧ r.time.isSome = true := by
      rw [Bool.not_eq_true', List.isEmpty_eq_false_iff, times_ne_nil_iff]
      simp [recordsOf, and_assoc]
    rw [timedLogs, List.mem_filter, htimed]
    refine and_iff_right_of_imp ?_
    rintro ⟨r, hr, rfl, -⟩
    exact mem_logs hr
  inOrder := (pairwise_idxOf_dedup _ []).filter _

/-! ## Suggestions for one end -/

theorem readAs_control (h : ∃ r ∈ s.records, r.time.isSome = true) (t : Instant) :
    s.ReadAs (s.control t) t := by
  obtain ⟨date, hdate⟩ := Control.exists_referenceDate_eq_some h
  have hreference : s.reference = some date := hdate
  intro other
  rw [control, hreference]
  exact Control.parse_format t date other

variable {choose : List Instant → Option Instant} {IsEnd : Set Instant → Instant → Prop}

/-- Of each log with a time there is one suggestion. -/
theorem forall₂_logSuggestions (hnone : ∀ ts, choose ts = none ↔ ts = []) :
    List.Forall₂ (fun log x => ∃ t, choose (Record.times (s.recordsOf log)) = some t ∧
      x = s.logSuggestion log t) s.timedLogs (s.logSuggestions choose) := by
  rw [timedLogs, logSuggestions]
  induction s.logs with
  | nil => exact .nil
  | cons log logs ih =>
    cases ht : choose (Record.times (s.recordsOf log)) with
    | none =>
      rw [List.filter_cons_of_neg (by simp [(hnone _).mp ht]),
        List.filterMap_cons_none (by simp [ht])]
      exact ih
    | some t =>
      have hne : Record.times (s.recordsOf log) ≠ [] := fun h => by simp [(hnone _).mpr h] at ht
      rw [List.filter_cons_of_pos (by simpa using hne),
        List.filterMap_cons_some (b := s.logSuggestion log t) (by simp [ht])]
      exact .cons ⟨t, ht, rfl⟩ ih

theorem suggests_logSuggestions (hnone : ∀ ts, choose ts = none ↔ ts = [])
    (hend : ∀ ts t, choose ts = some t → IsEnd {u | u ∈ ts} t)
    (h : ∃ r ∈ s.records, r.time.isSome = true) {t : Instant}
    (ht : choose (Record.times s.records) = some t) :
    s.Suggests IsEnd s.timedLogs (.plain (s.control t)) (s.logSuggestions choose) where
  whole := by
    have hall : {u | u ∈ Record.times s.records} = s.timesOf fun _ => True :=
      Set.ext fun _ => mem_times_iff
    exact ⟨t, hall ▸ hend _ t ht, readAs_control h t⟩
  label := rfl
  each := by
    refine (forall₂_logSuggestions hnone).imp fun log x hx => ?_
    obtain ⟨u, hu, rfl⟩ := hx
    have hlog : {v | v ∈ Record.times (s.recordsOf log)} = s.timesOf (·.log = log) :=
      Set.ext fun _ => mem_times_recordsOf_iff
    exact ⟨⟨u, hlog ▸ hend _ u hu, readAs_control h u⟩, rfl⟩

/-! ## Queries between two suggestions -/

/-- **What a query shows** between two controls that are read as instants. -/
theorem mem_query_of_asks {q : Query} {a b : Suggestion} {t u : Instant} (h : s.Asks q a b)
    (ht : s.ReadAs a.value t) (hu : s.ReadAs b.value u) (r : Record) :
    r ∈ (s.query q).records ↔ r ∈ s.records ∧ ∃ v, r.time = some v ∧ t ≤ v ∧ v ≤ u := by
  have hbounds : Control.bounds q.start q.finish s.reference = (.ok (some t), .ok (some u)) := by
    simp only [h.start, h.finish, Control.bounds, ht _, hu _, ite_self]
  rw [records_query, mem_select]
  refine and_congr_right fun hr => ?_
  rw [admits_windowOf, keeps_testOf hr, InWindow, hbounds]
  have hkeeps : s.Shows q r ∧ q.Keeps r := ⟨h.shows r hr, .inl h.filter⟩
  simp only [hkeeps, and_true, Except.ok.injEq, Option.some.injEq, forall_eq']
  constructor
  · rintro ⟨⟨v, hv, htv⟩, w, hw, hwu⟩
    obtain rfl := Option.some.inj (hv.symm.trans hw)
    exact ⟨v, hv, htv, hwu⟩
  · rintro ⟨v, hv, htv, hvu⟩
    exact ⟨⟨v, hv, htv⟩, v, hv, hvu⟩

/-- Between the outermost times of some records a query misses none of them. -/
theorem mem_query_of_isLeast {q : Query} {a b : Suggestion} {t u : Instant} {p : Record → Prop}
    (h : s.Asks q a b) (ha : IsLeast (s.timesOf p) t ∧ s.ReadAs a.value t)
    (hb : IsGreatest (s.timesOf p) u ∧ s.ReadAs b.value u) {r : Record} (hr : r ∈ s.records)
    (hp : p r) (htime : r.time.isSome = true) : r ∈ (s.query q).records := by
  obtain ⟨v, hv⟩ := Option.isSome_iff_exists.mp htime
  have hmem : v ∈ s.timesOf p := ⟨r, hr, hp, hv⟩
  exact (mem_query_of_asks h ha.2 hb.2 r).mpr ⟨hr, v, hv, ha.1.2 hmem, hb.1.2 hmem⟩

/-! ## All suggestions -/

/-- **The suggestions of a session.** Without a time there are none; else each is read as the
earliest time, or the latest, of all records or of the log that it is shown for, every log with a
time has just one for each end, in the order in which logs come up, and queries between them miss no
record with a time. -/
theorem offers_suggestions (s : Session) :
    ((∀ r ∈ s.records, r.time = none) → s.suggestions = {}) ∧
      ((∃ r ∈ s.records, r.time.isSome = true) →
        ∃ logs first last firsts lasts, s.Offers s.suggestions logs first last firsts lasts) := by
  constructor
  · intro h
    have hnil : Record.times s.records = [] := by
      by_contra hne
      obtain ⟨r, hr, htime⟩ := times_ne_nil_iff.mp hne
      rw [h r hr] at htime
      cases htime
    rw [suggestions, hnil]
    rfl
  · intro h
    have hne := times_ne_nil_iff.mpr h
    obtain ⟨t, ht⟩ := Option.ne_none_iff_exists'.mp (mt earliest?_eq_none.mp hne)
    obtain ⟨u, hu⟩ := Option.ne_none_iff_exists'.mp (mt latest?_eq_none.mp hne)
    have hearliest := suggests_logSuggestions (fun _ => earliest?_eq_none)
      (fun _ _ => isLeast_of_earliest?) h ht
    have hlatest := suggests_logSuggestions (fun _ => latest?_eq_none)
      (fun _ _ => isGreatest_of_latest?) h hu
    have hlists : s.suggestions =
        { start := .plain (s.control t) :: s.logSuggestions earliest?
          finish := .plain (s.control u) :: .plain "+5s" :: .plain "+10 minutes"
            :: s.logSuggestions latest? } := by
      rw [suggestions, ht, hu]
    refine ⟨s.timedLogs, _, _, _, _, congrArg Suggestions.start hlists,
      congrArg Suggestions.finish hlists, timedLogs_timedLogs, hearliest, hlatest, ?_, ?_⟩
    · intro q hq r
      obtain ⟨t', ht'⟩ := hearliest.whole
      obtain ⟨u', hu'⟩ := hlatest.whole
      constructor
      · intro hr
        obtain ⟨hr, v, hv, -⟩ := (mem_query_of_asks hq ht'.2 hu'.2 r).mp hr
        exact ⟨hr, Option.isSome_iff_exists.mpr ⟨v, hv⟩⟩
      · rintro ⟨hr, htime⟩
        exact mem_query_of_isLeast hq ht' hu' hr trivial htime
    · intro log a b ha hb q hq r hr hlog htime
      obtain ⟨⟨t', ht'⟩, -⟩ := List.forall₂_zip hearliest.each ha
      obtain ⟨⟨u', hu'⟩, -⟩ := List.forall₂_zip hlatest.each hb
      exact mem_query_of_isLeast hq ht' hu' hr hlog htime

/-- Logs of two days and one without a time. -/
def twoDays : Session :=
  { records :=
    [{ log := "build", message := "", line := "", body := "" },
     { log := "server", message := "", line := "", body := "",
       time := some ⟨1636959191000, by decide⟩, index := 1 },
     { log := "client", message := "", line := "", body := "",
       time := some ⟨1636699991230, by decide⟩, index := 2 }] }

theorem offers_suggestions_twoDays :
    (∃ r ∈ twoDays.records, r.time.isSome = true) ∧
      twoDays.suggestions.start.map Suggestion.label =
        ["06:53:11.230 (-3days)", "06:53:11 - server", "06:53:11.230 (-3days) - client"] ∧
      ∃ logs first last firsts lasts,
        twoDays.Offers twoDays.suggestions logs first last firsts lasts := by
  have htimed : ∃ r ∈ twoDays.records, r.time.isSome = true :=
    ⟨_, List.mem_cons_of_mem _ List.mem_cons_self, rfl⟩
  refine ⟨htimed, by decide +kernel, (offers_suggestions twoDays).2 htimed⟩

end Session

end Logbook
