import Logbook.Proofs.Message.Division

/-!
# Messages are complete copies

What is read of a message is read off its own lines. The log around it settles its time and nothing
else, so that the message alone, taken for a log, gives the same record.

* `dropEmptyLines_dropEmptyLines`, `readMessage?_dropEmptyLines`: empty lines at the end of a block
  do not matter;
* `blocks_dropEmptyLines`: a block without them is one block again;
* `exists_block_of_mem_parseLog`, `exists_read_of_mem_parseLog`: a record is read off its block, and
  so off the lines of its message;
* `blocks_of_mem_parseLog`, `parseLog_of_blocks_eq`: these lines are one block, and what a log of
  one block has for a record;
* **`parseLog_message`**: a message is read as the same record, alone and in any log.
-/

namespace Logbook

/-! ## Blocks without empty lines -/

theorem dropEmptyLines_dropEmptyLines (lines : List Line) :
    dropEmptyLines (dropEmptyLines lines) = dropEmptyLines lines := by
  rw [dropEmptyLines, dropEmptyLines, List.reverse_reverse, List.dropWhile_idempotent]

theorem readMessage?_dropEmptyLines (log : String) (lines : List Line) :
    readMessage? log (dropEmptyLines lines) = readMessage? log lines := by
  rw [readMessage?, readMessage?, dropEmptyLines_dropEmptyLines]

theorem blocks_eq_nil {lines : List Line} (h : ∀ l ∈ lines, isFollowing l = true) :
    blocks lines = [] := by
  induction lines with
  | nil => rfl
  | cons l ls ih =>
    obtain ⟨hl, hls⟩ := List.forall_mem_cons.mp h
    rw [blocks_cons_of_follows (by simpa [isFollowing] using hl), ih hls]

theorem exists_eq_cons_of_mem_blocks {lines block : List Line} (h : block ∈ blocks lines) :
    ∃ first following, block = first :: following ∧ startsMessage first = true ∧
      ∀ l ∈ following, isFollowing l = true := by
  induction lines with
  | nil => exact absurd h List.not_mem_nil
  | cons l ls ih =>
    by_cases hl : startsMessage l = true
    · rw [blocks_cons_of_starts hl] at h
      rcases List.mem_cons.mp h with rfl | h
      · exact ⟨l, _, rfl, hl, fun _ => List.mem_takeWhile_imp⟩
      · exact ih h
    · rw [blocks_cons_of_follows hl] at h
      exact ih h

/-- A block without the empty lines at its end is one block again. -/
theorem blocks_dropEmptyLines {lines block : List Line} (h : block ∈ blocks lines) :
    blocks (dropEmptyLines block) = [dropEmptyLines block] := by
  obtain ⟨first, following, rfl, hfirst, hfollowing⟩ := exists_eq_cons_of_mem_blocks h
  have hrest : ∀ l ∈ dropEmptyLines following, isFollowing l = true :=
    fun l hl => hfollowing l (mem_of_mem_dropEmptyLines hl)
  rw [dropEmptyLines_cons (ne_nil_of_startsMessage hfirst), blocks_cons_of_starts hfirst,
    blocks_eq_nil hrest, List.takeWhile_eq_self_iff.mpr hrest]

/-! ## Records and their messages -/

variable {log text : String} {r : Record}

/-- A record is that of one block, but for its time, and its message has the lines of that block. -/
theorem exists_block_of_mem_parseLog (h : r ∈ parseLog log text) :
    ∃ block ∈ blocks (Text.lines text.toList),
      Text.pieces '\n' r.message.toList = dropEmptyLines block ∧
      ∃ m, readMessage? log block = some m ∧ r = { m.1 with time := r.time } := by
  rw [parseLog_eq, ← List.map_uncurry_zip_eq_zipWith] at h
  obtain ⟨⟨m, t⟩, hmt, rfl⟩ := List.mem_map.mp h
  obtain ⟨block, hb, hread⟩ := List.mem_filterMap.mp (List.of_mem_zip hmt).1
  refine ⟨block, hb, ?_, m, hread, rfl⟩
  rw [← pieces_of_mem_blocks hb, ← message_of_readMessage? hread]
  rfl

theorem exists_read_of_mem_parseLog (h : r ∈ parseLog log text) :
    ∃ m, readMessage? log (Text.pieces '\n' r.message.toList) = some m ∧
      r = { m.1 with time := r.time } := by
  obtain ⟨block, -, hlines, m, hread, hr⟩ := exists_block_of_mem_parseLog h
  exact ⟨m, by rw [hlines, readMessage?_dropEmptyLines, hread], hr⟩

theorem blocks_of_mem_parseLog (h : r ∈ parseLog log text) :
    blocks (Text.pieces '\n' r.message.toList) = [Text.pieces '\n' r.message.toList] := by
  obtain ⟨block, hb, hlines, -⟩ := exists_block_of_mem_parseLog h
  rw [hlines, blocks_dropEmptyLines hb]

theorem lines_of_mem_parseLog (hreturn : '\r' ∉ text.toList) (h : r ∈ parseLog log text) :
    Text.lines r.message.toList = Text.pieces '\n' r.message.toList := by
  obtain ⟨block, hb, hlines, -⟩ := exists_block_of_mem_parseLog h
  refine Text.lines_eq_pieces fun l hl hmem => hreturn ?_
  rw [hlines] at hl
  exact Text.mem_of_mem_lines (forall_mem_blocks hb l (mem_of_mem_dropEmptyLines hl)) hmem

theorem timeAfter_of_none (own : Option Instant) : timeAfter none own = own := by
  cases own <;> rfl

theorem parseLog_of_blocks_eq {block : List Line} {m : Record × Option Instant}
    (hblocks : blocks (Text.lines text.toList) = [block])
    (hread : readMessage? log block = some m) :
    parseLog log text = [{ m.1 with time := m.2 }] := by
  rw [parseLog, parseLines, hblocks]
  simp [parseBlocks, parseMessage?, hread, timeAfter_of_none]

/-- **Messages are complete copies.** A message alone, taken for a log of the same name, gives one
record, which is that of the message but for the time; and wherever else the message stands, in this
log or in another of that name, its record is the same but for the time. -/
theorem parseLog_message (hreturn : '\r' ∉ text.toList) (h : r ∈ parseLog log text) :
    (∃ t, parseLog log r.message = [{ r with time := t }]) ∧
      ∀ (text' : String), ∀ r' ∈ parseLog log text', r'.message = r.message →
        r' = { r with time := r'.time } := by
  obtain ⟨m, hread, hr⟩ := exists_read_of_mem_parseLog h
  constructor
  · refine ⟨m.2, ?_⟩
    have hblocks : blocks (Text.lines r.message.toList) = [Text.pieces '\n' r.message.toList] := by
      rw [lines_of_mem_parseLog hreturn h, blocks_of_mem_parseLog h]
    rw [parseLog_of_blocks_eq hblocks hread, hr]
  · intro text' r' h' hmessage
    obtain ⟨m', hread', hr'⟩ := exists_read_of_mem_parseLog h'
    rw [hmessage, hread] at hread'
    rw [hr', hr, Option.some.inj hread']

/-- A message with the time of the one in front of it, and an empty line between them. -/
theorem parseLog_message_carried :
    '\r' ∉ "[10:00:00] [req#5] hover\n\x7b\"a\": 1\x7d\n\n[late] pong\n".toList ∧
      ∃ r ∈ parseLog "a" "[10:00:00] [req#5] hover\n\x7b\"a\": 1\x7d\n\n[late] pong\n",
        r.message = "[late] pong" ∧ r.time.isSome = true ∧
        (∃ t, parseLog "a" r.message = [{ r with time := t }]) ∧
        ∀ (text' : String), ∀ r' ∈ parseLog "a" text', r'.message = r.message →
          r' = { r with time := r'.time } := by
  have hreturn : '\r' ∉ "[10:00:00] [req#5] hover\n\x7b\"a\": 1\x7d\n\n[late] pong\n".toList := by
    decide +kernel
  have hmem : ("[late] pong", true) ∈
      (parseLog "a" "[10:00:00] [req#5] hover\n\x7b\"a\": 1\x7d\n\n[late] pong\n").map
        fun r => (r.message, r.time.isSome) := by
    decide +kernel
  obtain ⟨r, hr, heq⟩ := List.mem_map.mp hmem
  obtain ⟨hmessage, htime⟩ := Prod.mk.inj heq
  exact ⟨hreturn, r, hr, hmessage, htime, parseLog_message hreturn hr⟩

end Logbook
