import Logbook.Proofs.Message.Readings
import Logbook.Proofs.Message.Times
import Logbook.Proofs.Text.Pieces

/-!
# Messages divide the lines of a log

Each line that opens a message begins a stretch of lines that goes on up to the next such line. The
message is that stretch without the empty lines at its end; the lines ahead of the first one are in
no message.

* `blocks_eq`, `flatten_blocks`: blocks as stretches of lines, and what they are together;
* `map_messages`: what is true of the message of each block, message by message;
* `DividedInto`: what messages are to the lines of their log;
* **`dividedInto_parseLog`**: the lines of every log are divided into the messages of its records;
* `stampOf`, **`stamps_eq`**: the stamps of a log are those of its opening lines.
-/

namespace Logbook

/-! ## Stretches of lines -/

/-- A line that does not open a message. -/
def isFollowing (line : Line) : Bool := !startsMessage line

/-- The line at a place and all lines up to the next one that opens a message. -/
def blockAt (lines : List Line) (i : Nat) : List Line :=
  (lines.drop i).take 1 ++ (lines.drop (i + 1)).takeWhile isFollowing

theorem splitBlocks_eq (lines : List Line) :
    splitBlocks lines = (lines.takeWhile isFollowing, blocks lines) := by
  refine Prod.ext ?_ rfl
  induction lines with
  | nil => rfl
  | cons l ls ih =>
    by_cases h : startsMessage l = true
    · simp [splitBlocks, isFollowing, h]
    · simp only [splitBlocks, ih, if_neg h]
      rw [List.takeWhile_cons_of_pos (by simpa [isFollowing] using h)]

theorem blocks_cons_of_starts {l : Line} (h : startsMessage l = true) (ls : List Line) :
    blocks (l :: ls) = (l :: ls.takeWhile isFollowing) :: blocks ls := by
  rw [blocks, splitBlocks, splitBlocks_eq]
  simp only [if_pos h]

theorem blocks_cons_of_follows {l : Line} (h : ¬ startsMessage l = true) (ls : List Line) :
    blocks (l :: ls) = blocks ls := by
  rw [blocks, splitBlocks, splitBlocks_eq]
  simp only [if_neg h]

/-- The blocks of a log begin at the lines that open a message. -/
theorem blocks_eq (lines : List Line) :
    blocks lines = (lines.findIdxs startsMessage).map (blockAt lines) := by
  induction lines with
  | nil => rfl
  | cons l ls ih =>
    have hshift : (ls.findIdxs startsMessage 1).map (blockAt (l :: ls)) = blocks ls := by
      rw [List.findIdxs_start, List.map_map, ih]
      rfl
    rw [List.findIdxs_cons]
    by_cases h : startsMessage l = true
    · rw [if_pos h, List.map_cons, blocks_cons_of_starts h, hshift]
      rfl
    · rw [if_neg h, blocks_cons_of_follows h, hshift]

/-- The blocks of a log are its lines from the first that opens a message. -/
theorem flatten_blocks (lines : List Line) :
    (blocks lines).flatten = lines.dropWhile isFollowing := by
  induction lines with
  | nil => rfl
  | cons l ls ih =>
    by_cases h : startsMessage l = true
    · rw [blocks_cons_of_starts h, List.flatten_cons, ih, List.cons_append,
        List.takeWhile_append_dropWhile,
        List.dropWhile_cons_of_neg (by simpa [isFollowing] using h)]
    · rw [blocks_cons_of_follows h, ih, List.dropWhile_cons_of_pos (by simpa [isFollowing] using h)]

theorem map_head?_blocks (lines : List Line) :
    (blocks lines).map List.head? = (lines.filter startsMessage).map some := by
  induction lines with
  | nil => rfl
  | cons l ls ih =>
    by_cases h : startsMessage l = true
    · rw [blocks_cons_of_starts h, List.filter_cons_of_pos h, List.map_cons, List.map_cons, ih,
        List.head?_cons]
    · rw [blocks_cons_of_follows h, List.filter_cons_of_neg h, ih]

/-! ## Empty lines at the end -/

/-- How many empty lines some lines end in. -/
def trailingBlanks (lines : List Line) : Nat := (lines.reverse.takeWhile List.isEmpty).length

theorem dropEmptyLines_append (lines : List Line) :
    dropEmptyLines lines ++ List.replicate (trailingBlanks lines) [] = lines := by
  have hblank :
      lines.reverse.takeWhile List.isEmpty = List.replicate (trailingBlanks lines) [] := by
    refine List.eq_replicate_iff.mpr ⟨rfl, fun l hl => ?_⟩
    exact List.isEmpty_iff.mp (List.mem_takeWhile_imp hl)
  have hsplit := congrArg List.reverse
    (List.takeWhile_append_dropWhile (p := List.isEmpty) (l := lines.reverse))
  rw [List.reverse_append, List.reverse_reverse, hblank, List.reverse_replicate] at hsplit
  exact hsplit

theorem mem_of_mem_dropEmptyLines {lines : List Line} {l : Line} (h : l ∈ dropEmptyLines lines) :
    l ∈ lines :=
  (prefix_dropEmptyLines lines).subset h

theorem ne_nil_of_getLast?_dropEmptyLines {lines : List Line} {l : Line}
    (h : (dropEmptyLines lines).getLast? = some l) : l ≠ [] := by
  rw [dropEmptyLines, List.getLast?_reverse] at h
  have hlast := List.head?_dropWhile_not List.isEmpty lines.reverse
  rw [h] at hlast
  simpa using hlast

/-- The lines of a message are those of its block without the empty ones at the end. -/
theorem pieces_joinLines {block : List Line} (hne : dropEmptyLines block ≠ [])
    (hfeed : ∀ l ∈ block, '\n' ∉ l) :
    Text.pieces '\n' (joinLines (dropEmptyLines block)) = dropEmptyLines block :=
  Text.pieces_intercalate hne fun l hl => hfeed l (mem_of_mem_dropEmptyLines hl)

/-! ## The message of a block -/

theorem map_messages {α : Type} (log text : String) {f : Record × Option Instant → α}
    {g : List Line → α} (h : ∀ block m, readMessage? log block = some m → f m = g block) :
    (messages log text).map f = (blocks (Text.lines text.toList)).map g := by
  have hmap := congrArg (List.map (Option.map f)) (map_readMessage?_blocks log text)
  rw [List.map_map, List.map_map] at hmap
  refine List.map_injective_iff.mpr (fun _ _ => Option.some.inj) ?_
  rw [List.map_map, List.map_map]
  refine Eq.trans hmap.symm (List.map_congr_left fun block hb => ?_)
  obtain ⟨first, following, rfl, hf⟩ := startsMessage_of_mem_blocks hb
  obtain ⟨m, hm⟩ := Option.isSome_iff_exists.mp (isSome_readMessage? log hf following)
  rw [Function.comp_apply, Function.comp_apply, hm, Option.map_some, h _ m hm]

/-- A message is read off the lines of its block, up to the empty ones at the end. -/
theorem message_of_readMessage? {log : String} {block : List Line} {m : Record × Option Instant}
    (h : readMessage? log block = some m) :
    m.1.message = String.ofList (joinLines (dropEmptyLines block)) := by
  obtain ⟨first, following, rfl, hfirst, rfl⟩ := exists_reading_of_readMessage? h
  rw [message_reading, dropEmptyLines_cons (ne_nil_of_startsMessage hfirst)]

theorem map_message_parseLog (log text : String) :
    (parseLog log text).map Record.message =
      (blocks (Text.lines text.toList)).map fun b =>
        String.ofList (joinLines (dropEmptyLines b)) := by
  have hlen := length_filledTimes ((messages log text).map Prod.snd)
  rw [List.length_map] at hlen
  have hfst : (parseLog log text).map Record.message =
      (messages log text).map fun m => m.1.message := by
    rw [parseLog_eq, ← List.map_uncurry_zip_eq_zipWith, List.map_map]
    conv_rhs => rw [← List.map_fst_zip hlen.ge, List.map_map]
    rfl
  rw [hfst, map_messages log text fun _ _ => message_of_readMessage?]

/-! ## The division -/

/-- **Messages divide lines.** -/
structure DividedInto (lines : List Line) (messages : List String) : Prop where
  /-- There is a message for each line that opens one, in order: this line and all lines up to the
  next such line, without the empty ones at the end, put together again. -/
  each : messages = (lines.findIdxs startsMessage).map fun i =>
    String.ofList (joinLines (dropEmptyLines (blockAt lines i)))
  length : messages.length = lines.countP startsMessage
  /-- No message ends in an empty line. -/
  trimmed : ∀ m ∈ messages, (Text.pieces '\n' m.toList).getLast? ≠ some []
  /-- The messages in order have in them all lines from the first that opens a message, but for some
  empty ones behind each message. -/
  rejoined : ∃ blanks : List Nat, blanks.length = messages.length ∧
    (List.zipWith (fun m n => Text.pieces '\n' m.toList ++ List.replicate n [])
      messages blanks).flatten
      = lines.dropWhile isFollowing

theorem forall_mem_blocks {lines block : List Line} (h : block ∈ blocks lines) :
    ∀ l ∈ block, l ∈ lines := by
  intro l hl
  have hmem : l ∈ lines.dropWhile isFollowing :=
    flatten_blocks lines ▸ List.mem_flatten.mpr ⟨block, h, hl⟩
  exact (List.dropWhile_suffix isFollowing).mem hmem

theorem dropEmptyLines_ne_nil {lines block : List Line} (h : block ∈ blocks lines) :
    dropEmptyLines block ≠ [] := by
  obtain ⟨first, following, rfl, hf⟩ := startsMessage_of_mem_blocks h
  rw [dropEmptyLines_cons (ne_nil_of_startsMessage hf)]
  exact List.cons_ne_nil _ _

theorem pieces_of_mem_blocks {text : List Char} {block : List Line}
    (hb : block ∈ blocks (Text.lines text)) :
    Text.pieces '\n' (String.ofList (joinLines (dropEmptyLines block))).toList
      = dropEmptyLines block := by
  rw [String.toList_ofList]
  exact pieces_joinLines (dropEmptyLines_ne_nil hb) fun l hl =>
    Text.not_mem_of_mem_lines (forall_mem_blocks hb l hl)

/-- **The lines of a log are divided** into the messages of its records. -/
theorem dividedInto_parseLog (log text : String) :
    DividedInto (Text.lines text.toList) ((parseLog log text).map Record.message) where
  each := by rw [map_message_parseLog, blocks_eq, List.map_map]; rfl
  length := by
    rw [map_message_parseLog, List.length_map, blocks_eq, List.length_map, List.length_findIdxs]
  trimmed := by
    rw [map_message_parseLog]
    intro m hm hempty
    obtain ⟨block, hb, rfl⟩ := List.mem_map.mp hm
    rw [pieces_of_mem_blocks hb] at hempty
    exact ne_nil_of_getLast?_dropEmptyLines hempty rfl
  rejoined := by
    refine ⟨(blocks (Text.lines text.toList)).map trailingBlanks, ?_, ?_⟩
    · rw [map_message_parseLog, List.length_map, List.length_map]
    · rw [map_message_parseLog, List.zipWith_map, List.zipWith_self, ← flatten_blocks]
      refine congrArg List.flatten ((List.map_congr_left fun block hb => ?_).trans (List.map_id _))
      rw [pieces_of_mem_blocks hb, dropEmptyLines_append, id_eq]

/-! ## Stamps -/

/-- The stamps of a log, one place for each message. -/
def stamps (log text : String) : List (Option Instant) := (messages log text).map Prod.snd

/-- The stamp of a line that opens a message: that of a trace, or else the first among the tags. -/
def stampOf (line : Line) : Option Instant :=
  ((Trace.Header.read? line).bind fun h => readStamp? h.time).or (classify (stripTags line).1).time

theorem stamp_reading (log : String) (first : Line) (following : List Line) :
    (reading log first following).2 = stampOf first := by
  have hstamp : (Trace.Header.read? first).bind (fun h => readStamp? h.time) =
      (Trace.opening? first).map Prod.snd := by
    unfold Trace.opening?
    cases Trace.Header.read? first <;> simp [Option.map_map, Function.comp_def]
  rw [stampOf, hstamp]
  cases hopen : Trace.opening? first with
  | none => rw [reading_of_none hopen, Option.map_none, Option.none_or]
  | some opening => rw [reading_of_some hopen, Option.map_some, Option.some_or]

theorem stamp_of_readMessage? {log : String} {block : List Line} {m : Record × Option Instant}
    (h : readMessage? log block = some m) : some m.2 = block.head?.map stampOf := by
  obtain ⟨first, following, rfl, -, rfl⟩ := exists_reading_of_readMessage? h
  rw [List.head?_cons, Option.map_some, stamp_reading]

/-- **The stamps of a log** are those of the lines that open its messages. -/
theorem stamps_eq (log text : String) :
    stamps log text = ((Text.lines text.toList).filter startsMessage).map stampOf := by
  refine List.map_injective_iff.mpr (fun _ _ => Option.some.inj) ?_
  calc (stamps log text).map some
      = (blocks (Text.lines text.toList)).map (Option.map stampOf ∘ List.head?) := by
        rw [stamps, List.map_map]
        exact map_messages log text fun _ _ => stamp_of_readMessage?
    _ = ((blocks (Text.lines text.toList)).map List.head?).map (Option.map stampOf) :=
        List.map_map.symm
    _ = (((Text.lines text.toList).filter startsMessage).map stampOf).map some := by
        rw [map_head?_blocks, List.map_map, List.map_map]
        rfl

end Logbook
