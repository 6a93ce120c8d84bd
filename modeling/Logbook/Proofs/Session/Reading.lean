import Logbook.Session

/-!
# Sessions that read

A session comes to its records by reading combined streams and files, one after the other.

* `Reading`, `Session.read`, `Session.ofReadings`: what is read, and the session after some
  readings;
* `map_index_append`: a reading numbers its records on from those before;
* **`map_index_ofReadings`**: the numbers of the records of a session are their places.
-/

namespace Logbook

/-- Something that a session reads. -/
inductive Reading where
  /-- A combined stream. -/
  | stream (text : String)
  | file (path text : String)

namespace Session

/-- The session after one more reading. -/
def read (s : Session) : Reading → Session
  | .stream text => (s.ingest text).2
  | .file path text => (s.load path text).2

/-- **The session after some readings**, from an empty one. -/
def ofReadings (view : ViewDefaults) (readings : List Reading) : Session :=
  readings.foldl read { view }

theorem exists_read_eq_append (s : Session) (x : Reading) : ∃ rs, s.read x = (s.append rs).2 := by
  cases x with
  | stream text => exact ⟨_, rfl⟩
  | file path text => exact ⟨_, rfl⟩

/-! ## Numbers -/

theorem map_index_reconcile (rs : List Record) :
    (reconcile rs).map Record.index = rs.map Record.index := by
  unfold reconcile
  split
  · rw [List.map_map]
    rfl
  · rfl

theorem map_index_numberFrom (n : Nat) (rs : List Record) :
    (numberFrom n rs).map Record.index = List.range' n rs.length := by
  induction rs generalizing n with
  | nil => rfl
  | cons r rs ih => rw [numberFrom, List.map_cons, ih, List.length_cons, List.range'_succ]

theorem map_index_append (s : Session) (rs : List Record) :
    (s.append rs).2.records.map Record.index =
      s.records.map Record.index ++ List.range' s.records.length rs.length := by
  unfold append
  rw [map_index_reconcile, List.map_append, map_index_numberFrom]

theorem map_index_read {s : Session}
    (h : s.records.map Record.index = List.range s.records.length) (x : Reading) :
    (s.read x).records.map Record.index = List.range (s.read x).records.length := by
  obtain ⟨rs, hrs⟩ := exists_read_eq_append s x
  have hmap := map_index_append s rs
  rw [← hrs, h, List.range'_eq_map_range, ← List.range_add] at hmap
  have hlen := congrArg List.length hmap
  rw [List.length_map, List.length_range] at hlen
  rw [hmap, hlen]

/-- **The numbers of a session's records are their places**, whatever it has read. -/
theorem map_index_ofReadings (view : ViewDefaults) (readings : List Reading) :
    (ofReadings view readings).records.map Record.index =
      List.range (ofReadings view readings).records.length := by
  suffices h : ∀ s : Session, s.records.map Record.index = List.range s.records.length →
      (readings.foldl read s).records.map Record.index =
        List.range (readings.foldl read s).records.length from h { view } rfl
  induction readings with
  | nil => exact fun s hs => hs
  | cons x xs ih => exact fun s hs => ih (s.read x) (map_index_read hs x)

end Session

end Logbook
