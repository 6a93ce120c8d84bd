import Mathlib.Data.List.Nodup
import Logbook.Proofs.Session.Answer

/-!
# How sessions grow

A session only ever adds records at the end. Those it has keep their places, their numbers and all
their fields but the time, and that none of them loses or gains.

* `Reading.records`, `Session.added`: what a reading brings, and how much it says it does;
* `Record.lasting`: what lasts of a record;
* `lasting_append`: what one reading does, **`lasting_ofReadings`**: what all of them do;
* `Session.Grows`, `Session.Numbered`: what the records of a session owe to those before, and to
  their numbers;
* **`grows_ofReadings`**: whatever a session reads, it grows and stays numbered.
-/

namespace Logbook

/-- The records that a reading brings, as they are parsed. -/
def Reading.records : Reading → List Record
  | .stream text => (splitLogs text).flatMap fun segment => parseLines segment.name segment.lines
  | .file path text => parseLog (logName path) text

/-- The number of records that a reading says it adds. -/
def Session.added (s : Session) : Reading → Nat
  | .stream text => (s.ingest text).1
  | .file path text => (s.load path text).1

/-- What lasts of a record: all but its time, and whether it has one. -/
def Record.lasting (r : Record) : Record × Bool := ({ r with time := none }, r.time.isSome)

/-- The text of an expression for a record; none where its value is `undefined` or `null`. -/
def Record.details (r : Record) (source : String) : Except ExprError (Option String) :=
  ((compile source).eval r).map fun v => if v.isNullish then none else some v.display

namespace Session

/-- **A session grows** to another one by some parsed records. -/
structure Grows (s t : Session) (parsed : List Record) : Prop where
  length : t.records.length = s.records.length + parsed.length
  /-- The records before are at their places. -/
  kept : ∀ (i : Nat) (r : Record), s.records[i]? = some r →
    ∃ r' : Record, t.records[i]? = some r' ∧ r'.lasting = r.lasting
  /-- The parsed ones follow, with the numbers of their places. -/
  new : ∀ (j : Nat) (r : Record), parsed[j]? = some r →
    ∃ r' : Record, t.records[s.records.length + j]? = some r' ∧
      r'.lasting = { r with index := s.records.length + j }.lasting

/-- **The records of a session are numbered** by their places, so that a number that is shown leads
back to its record. -/
structure Numbered (s : Session) : Prop where
  index : ∀ (i : Nat) (r : Record), s.records[i]? = some r → r.index = i
  details : ∀ (q : Query) (r : Record), r ∈ (s.query q).records →
    ∀ source, s.details r.index source = r.details source

/-! ## One reading -/

theorem read_eq_append (s : Session) (x : Reading) : s.read x = (s.append x.records).2 := by
  cases x <;> rfl

theorem fst_append (s : Session) (rs : List Record) : (s.append rs).1 = rs.length := rfl

theorem added_eq (s : Session) (x : Reading) : s.added x = x.records.length := by
  cases x with
  | stream text => exact fst_append s _
  | file path text => exact fst_append s _

theorem lasting_reconcile (rs : List Record) :
    (reconcile rs).map Record.lasting = rs.map Record.lasting := by
  unfold reconcile
  split
  · rw [List.map_map]
    refine List.map_congr_left fun r _ => ?_
    simp only [Function.comp_apply, Record.lasting, Option.isSome_map]
  · rfl

theorem lasting_append (s : Session) (rs : List Record) :
    (s.append rs).2.records.map Record.lasting =
      s.records.map Record.lasting ++ (numberFrom s.records.length rs).map Record.lasting := by
  unfold append
  rw [lasting_reconcile, List.map_append]

/-! ## Many readings -/

theorem length_numberFrom (n : Nat) (rs : List Record) : (numberFrom n rs).length = rs.length := by
  rw [← List.length_map (f := Record.index), map_index_numberFrom, List.length_range']

theorem numberFrom_append (n : Nat) (as bs : List Record) :
    numberFrom n (as ++ bs) = numberFrom n as ++ numberFrom (n + as.length) bs := by
  induction as generalizing n with
  | nil => rfl
  | cons a as ih =>
    rw [List.cons_append, numberFrom, ih, numberFrom, List.cons_append, List.length_cons,
      Nat.add_assoc, Nat.add_comm 1]

theorem getElem?_numberFrom (n : Nat) (rs : List Record) (j : Nat) :
    (numberFrom n rs)[j]? = rs[j]?.map fun r => { r with index := n + j } := by
  induction rs generalizing n j with
  | nil => rfl
  | cons r rs ih =>
    cases j with
    | zero => rfl
    | succ j =>
      rw [numberFrom, List.getElem?_cons_succ, List.getElem?_cons_succ, ih, Nat.add_right_comm]
      rfl

/-- **Readings add** their parsed records, numbered on, and change nothing that lasts. -/
theorem lasting_foldl_read (s : Session) (later : List Reading) :
    (later.foldl read s).records.map Record.lasting = s.records.map Record.lasting ++
      (numberFrom s.records.length (later.flatMap Reading.records)).map Record.lasting := by
  induction later generalizing s with
  | nil => simp [numberFrom]
  | cons x later ih =>
    have hread := lasting_append s x.records
    rw [← read_eq_append] at hread
    have hlen := congrArg List.length hread
    simp only [List.length_map, List.length_append, length_numberFrom] at hlen
    rw [List.foldl_cons, ih, hread, hlen, List.flatMap_cons, numberFrom_append, List.map_append,
      List.append_assoc]

theorem exists_of_map_lasting {as bs : List Record}
    (h : as.map Record.lasting = bs.map Record.lasting) {i : Nat} {b : Record}
    (hb : bs[i]? = some b) :
    ∃ a, as[i]? = some a ∧ a.lasting = b.lasting := by
  have hi := congrArg (·[i]?) h
  simp only [List.getElem?_map, hb, Option.map_some] at hi
  exact Option.map_eq_some_iff.mp hi

theorem grows_foldl_read (s : Session) (later : List Reading) :
    s.Grows (later.foldl read s) (later.flatMap Reading.records) := by
  have hmap := lasting_foldl_read s later
  rw [← List.map_append] at hmap
  refine ⟨?_, fun i r hr => ?_, fun j r hr => ?_⟩
  · have hlen := congrArg List.length hmap
    rwa [List.length_map, List.length_map, List.length_append, length_numberFrom] at hlen
  · have hi : i < s.records.length := (List.getElem?_eq_some_iff.mp hr).1
    exact exists_of_map_lasting hmap (by rw [List.getElem?_append_left hi, hr])
  · refine exists_of_map_lasting hmap ?_
    rw [List.getElem?_append_right (Nat.le_add_right _ _), Nat.add_sub_cancel_left,
      getElem?_numberFrom, hr, Option.map_some]

/-! ## Numbers lead back -/

theorem index_of_getElem? {s : Session}
    (h : s.records.map Record.index = List.range s.records.length) {i : Nat} {r : Record}
    (hr : s.records[i]? = some r) : r.index = i := by
  have hi := congrArg (·[i]?) h
  simp only [List.getElem?_map, hr, Option.map_some] at hi
  obtain ⟨hlt, heq⟩ := List.getElem?_eq_some_iff.mp hi.symm
  rw [List.getElem_range] at heq
  exact heq.symm

theorem find?_index {s : Session} (h : (s.records.map Record.index).Nodup) {r : Record}
    (hr : r ∈ s.records) : s.records.find? (fun r' => r'.index == r.index) = some r := by
  obtain ⟨r', hr'⟩ := Option.isSome_iff_exists.mp
    ((List.find?_isSome (p := fun r' => r'.index == r.index)).mpr ⟨r, hr, beq_self_eq_true _⟩)
  have hindex : r'.index = r.index := by simpa using List.find?_some hr'
  rw [hr', List.inj_on_of_nodup_map h (List.mem_of_find?_eq_some hr') hr hindex]

theorem numbered_of_map_index {s : Session}
    (h : s.records.map Record.index = List.range s.records.length) : s.Numbered where
  index _ _ hr := index_of_getElem? h hr
  details q r hr source := by
    have hmem : r ∈ s.records := (mem_select.mp (records_query s q ▸ hr)).1
    rw [Session.details, find?_index (h ▸ List.nodup_range) hmem, Record.details]

/-- **Sessions grow**: whatever a session has read, its records are numbered by their places, a
further reading tells how many records it adds, and all further readings only add. -/
theorem grows_ofReadings (view : ViewDefaults) (before later : List Reading) :
    let s := ofReadings view before
    s.Numbered ∧
      (∀ x, (s.read x).records.length = s.records.length + s.added x) ∧
      s.Grows (ofReadings view (before ++ later)) (later.flatMap Reading.records) := by
  refine ⟨numbered_of_map_index (map_index_ofReadings view before), fun x => ?_, ?_⟩
  · have hgrows := grows_foldl_read (ofReadings view before) [x]
    rw [List.flatMap_singleton] at hgrows
    rw [added_eq]
    exact hgrows.length
  · rw [ofReadings, ofReadings, List.foldl_append]
    exact grows_foldl_read _ later

end Session

end Logbook
