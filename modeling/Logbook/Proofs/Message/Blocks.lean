import Mathlib.Data.List.DropRight
import Logbook.Message.Log

/-!
# Blocks and their messages

* `startsMessage_of_mem_blocks`: every block opens with the first line of a message;
* `isSome_readMessage?`: so every block has a message;
* `messages`, `map_readMessage?_blocks`: the messages of a log, one for each block, with the stamps
  of their own;
* **`parseBlocks_eq`**: records are the messages with the times that they carry on.
-/

namespace Logbook

/-! ## Every block has a message -/

theorem ne_nil_of_startsMessage {line : Line} (h : startsMessage line = true) : line ≠ [] := by
  rintro rfl
  revert h
  decide

theorem dropEmptyLines_cons {line : Line} (h : line ≠ []) (rest : List Line) :
    dropEmptyLines (line :: rest) = line :: dropEmptyLines rest := by
  have hl : line.isEmpty = false := by simpa using h
  unfold dropEmptyLines
  rw [List.reverse_cons, List.dropWhile_append]
  split
  · next hr =>
    rw [List.isEmpty_iff] at hr
    simp [hl, hr]
  · simp

theorem startsMessage_of_mem_blocks {lines block : List Line} (h : block ∈ blocks lines) :
    ∃ first following, block = first :: following ∧ startsMessage first = true := by
  unfold blocks at h
  induction lines with
  | nil => simp [splitBlocks] at h
  | cons l ls ih =>
    simp only [splitBlocks] at h
    by_cases hl : startsMessage l = true
    · rw [if_pos hl] at h
      rcases List.mem_cons.mp h with rfl | h
      · exact ⟨l, _, rfl, hl⟩
      · exact ih h
    · rw [if_neg hl] at h
      exact ih h

theorem isSome_readMessage? (log : String) {first : Line} (h : startsMessage first = true)
    (following : List Line) : (readMessage? log (first :: following)).isSome = true := by
  unfold readMessage?
  rw [dropEmptyLines_cons (ne_nil_of_startsMessage h)]
  simp only [if_pos h, Option.isSome_some]

/-! ## Messages and records -/

/-- The messages of some blocks: the records without their times, each with its own stamp. -/
def messagesOf (log : String) (bs : List (List Line)) : List (Record × Option Instant) :=
  bs.filterMap (readMessage? log)

/-- **The messages of a log**: the records without their times, each with its own stamp. -/
def messages (log text : String) : List (Record × Option Instant) :=
  messagesOf log (blocks (Text.lines text.toList))

theorem map_readMessage?_blocks (log text : String) :
    (blocks (Text.lines text.toList)).map (readMessage? log) = (messages log text).map some := by
  unfold messages messagesOf
  rw [List.map_filterMap, ← List.filterMap_eq_map]
  refine List.filterMap_congr fun block hb => ?_
  obtain ⟨first, following, rfl, hf⟩ := startsMessage_of_mem_blocks hb
  obtain ⟨m, hm⟩ := Option.isSome_iff_exists.mp (isSome_readMessage? log hf following)
  rw [Function.comp_apply, hm, Option.map_some]

/-- The times that stamps give when each is read with the time before it. -/
def carriedFrom (prev : Option Instant) : List (Option Instant) → List (Option Instant)
  | [] => []
  | own :: rest => timeAfter prev own :: carriedFrom (timeAfter prev own) rest

theorem timeAfter_or (prev own : Option Instant) :
    (timeAfter prev own).or prev = timeAfter prev own := by
  cases own <;> cases prev <;> rfl

theorem getLastD_carriedFrom_cons (prev own : Option Instant) (rest : List (Option Instant)) :
    (carriedFrom prev (own :: rest)).getLastD prev =
      (carriedFrom (timeAfter prev own) rest).getLastD (timeAfter prev own) := by
  rw [carriedFrom, List.getLastD_cons]

/-- **Records are messages with the times that are carried on.** -/
theorem parseBlocks_eq (log : String) (prev : Option Instant) (bs : List (List Line)) :
    parseBlocks log prev bs =
      (List.zipWith (fun m t => { m.1 with time := t }) (messagesOf log bs)
          (carriedFrom prev ((messagesOf log bs).map Prod.snd)),
        (carriedFrom prev ((messagesOf log bs).map Prod.snd)).getLastD prev) := by
  induction bs generalizing prev with
  | nil => rfl
  | cons b bs ih =>
    unfold parseBlocks messagesOf
    cases hb : readMessage? log b with
    | none =>
      simp only [parseMessage?, hb, Option.map_none, List.filterMap_cons]
      exact ih prev
    | some m =>
      obtain ⟨r, own⟩ := m
      simp only [parseMessage?, hb, Option.map_some, List.filterMap_cons, List.map_cons,
        getLastD_carriedFrom_cons, timeAfter_or]
      rw [ih (timeAfter prev own)]
      rfl

end Logbook
