import Logbook.Message.Log
import Logbook.Proofs.Json.Layout
import Logbook.Proofs.Message.Relaxed
import Logbook.Proofs.Text.Pieces

/-!
# Structured data at the end of a message

Which arrays and objects are found that begin in the first line of a message and go on in the lines
that follow.

* `lastMark`, `Closed`: the last character that is no space, and texts that end in a bracket;
* `keepsEnd_tidy`: the steps of relaxed reading keep a bracket at the end;
* `parseRelaxed?_brace_eq_none`: what begins with a brace and ends in a bracket is not read;
* `AreLines`: the lines of a text, in which the data is the same;
* **`findPayload_lines`**: which arrays and objects are found.
-/

namespace Logbook

open Json

/-! ## The last mark of a text -/

/-- The last character that is no space. -/
def lastMark (cs : List Char) : Option Char := (cs.filter fun c => !isSpace c).getLast?

theorem lastMark_append (a b : List Char) : lastMark (a ++ b) = (lastMark b).or (lastMark a) := by
  rw [lastMark, List.filter_append, List.getLast?_append]
  rfl

theorem lastMark_cons (c : Char) (cs : List Char) :
    lastMark (c :: cs) = (lastMark cs).or (lastMark [c]) :=
  lastMark_append [c] cs

theorem lastMark_concat {d : Char} (h : isSpace d = false) (cs : List Char) :
    lastMark (cs ++ [d]) = some d := by
  have hd : lastMark [d] = some d := by
    simp [lastMark, h]
  rw [lastMark_append, hd, Option.some_or]

/-- Nothing but space, or a bracket with nothing but space behind it. -/
def Closed (cs : List Char) : Prop := lastMark cs = none ∨ lastMark cs = some ']'

theorem Closed.of_append {a b : List Char} (h : Closed (a ++ b)) : Closed b := by
  unfold Closed at h
  rw [lastMark_append] at h
  cases hb : lastMark b with
  | none => exact .inl hb
  | some c =>
    rw [hb, Option.some_or] at h
    rcases h with h | h
    · cases h
    · exact .inr (hb.trans h)

theorem Closed.of_cons {c : Char} {cs : List Char} (h : Closed (c :: cs)) : Closed cs :=
  .of_append (a := [c]) h

namespace Relaxed

/-- A step keeps a bracket at the end. -/
def KeepsEnd (f : List Char → List Char) : Prop := ∀ cs, Closed cs → lastMark (f cs) = lastMark cs

theorem lastMark_cons_congr {cs ds : List Char} (h : lastMark cs = lastMark ds) (c : Char) :
    lastMark (c :: cs) = lastMark (c :: ds) := by
  rw [lastMark_cons, lastMark_cons c ds, h]

theorem lastMark_append_congr {cs ds : List Char} (h : lastMark cs = lastMark ds) (a : List Char) :
    lastMark (a ++ cs) = lastMark (a ++ ds) := by
  rw [lastMark_append, lastMark_append, h]

/-- What is written for a piece that has another last mark does not count. -/
theorem lastMark_replace {x cs ds : List Char} {d : Char} (h : Closed (x ++ cs))
    (hx : lastMark x = some d) (hd : d ≠ ']') (hds : lastMark ds = lastMark cs) (y : List Char) :
    lastMark (y ++ ds) = lastMark (x ++ cs) := by
  have hcs : lastMark cs = some ']' := by
    unfold Closed at h
    rw [lastMark_append, hx] at h
    cases hc : lastMark cs with
    | none =>
      rw [hc, Option.none_or] at h
      rcases h with h | h
      · cases h
      · exact absurd (Option.some.inj h) hd
    | some c =>
      rw [hc, Option.some_or] at h
      rcases h with h | h
      · cases h
      · exact h
  rw [lastMark_append, lastMark_append, hds, hcs, Option.some_or, Option.some_or]

theorem keepsEnd_doubleQuotes : KeepsEnd doubleQuotes := by
  intro cs h
  induction cs with
  | nil => rfl
  | cons c cs ih =>
    have hcs := ih h.of_cons
    by_cases hc : c = '\''
    · subst hc
      exact lastMark_replace (x := ['\'']) h rfl (by decide) hcs ['"']
    · have hstep : doubleQuotes (c :: cs) = c :: doubleQuotes cs := by
        simp only [doubleQuotes, List.map_cons, hc, if_false]
      rw [hstep]
      exact lastMark_cons_congr hcs c

theorem keepsEnd_maskColons : KeepsEnd maskColons := by
  intro cs h
  fun_induction maskColons cs with
  | case1 => rfl
  | case2 rest body after hquoted ih =>
    obtain ⟨b, -, -, rfl⟩ := exists_quotedValue hquoted
    have hsplit : ':' :: (b ++ '"' :: (body ++ '"' :: after)) =
        (':' :: (b ++ '"' :: body) ++ ['"']) ++ after := by
      simp
    rw [hsplit] at h ⊢
    have hafter := ih h.of_append
    rw [List.append_cons]
    exact lastMark_replace h (lastMark_concat rfl _) (by decide) hafter _
  | case3 rest hquoted ih => exact lastMark_cons_congr (ih h.of_cons) _
  | case4 c rest hc ih => exact lastMark_cons_congr (ih h.of_cons) c

theorem keepsEnd_quoteNames : KeepsEnd quoteNames := by
  intro cs h
  fun_induction quoteNames cs with
  | case1 => rfl
  | case2 c rest hc name after hdrop ih =>
    have hrest := (List.takeWhile_append_dropWhile (p := isNameChar) (l := rest)).symm
    have hsplit : c :: rest = (name ++ [':']) ++ after := by
      rw [List.append_assoc, List.singleton_append, ← hdrop, List.cons_append, ← hrest]
    have hout : '"' :: (name ++ ['"', ':', ' '] ++ quoteNames after) =
        ('"' :: name ++ ['"', ':', ' ']) ++ quoteNames after := rfl
    rw [hsplit] at h ⊢
    rw [hout]
    exact lastMark_replace h (lastMark_concat rfl name) (by decide) (ih h.of_append) _
  | case3 c rest hc name hdrop ih =>
    have hrest := (List.takeWhile_append_dropWhile (p := isNameChar) (l := rest)).symm
    have hsplit : c :: rest = name ++ rest.dropWhile isNameChar := by
      rw [List.cons_append, ← hrest]
    rw [hsplit] at h ⊢
    exact lastMark_append_congr (ih h.of_append) name
  | case4 c rest hc ih => exact lastMark_cons_congr (ih h.of_cons) c

theorem keepsEnd_dropUndefined : KeepsEnd dropUndefined := by
  intro cs h
  fun_induction dropUndefined cs with
  | case1 => rfl
  | case2 rest after hafter ih =>
    obtain ⟨name, b, -, rfl | rfl⟩ := exists_afterUndefined hafter
    · have hsplit : '"' :: (name ++ '"' :: ':' :: (b ++ (undefinedWord ++ after))) =
          (('"' :: (name ++ '"' :: ':' :: (b ++ undefinedWord.dropLast))) ++ ['d']) ++ after := by
        simp [undefinedWord]
      rw [hsplit] at h ⊢
      exact lastMark_replace h (lastMark_concat rfl _) (by decide) (ih h.of_append) []
    · have hsplit : '"' :: (name ++ '"' :: ':' :: (b ++ (undefinedWord ++ ',' :: after))) =
          (('"' :: (name ++ '"' :: ':' :: (b ++ undefinedWord))) ++ [',']) ++ after := by
        simp
      rw [hsplit] at h ⊢
      exact lastMark_replace h (lastMark_concat rfl _) (by decide) (ih h.of_append) []
  | case3 rest hafter ih => exact lastMark_cons_congr (ih h.of_cons) _
  | case4 c rest hc ih => exact lastMark_cons_congr (ih h.of_cons) c

theorem keepsEnd_dropTrailingCommas : KeepsEnd dropTrailingCommas := by
  intro cs h
  induction cs with
  | nil => rfl
  | cons c cs ih =>
    have hcs := ih h.of_cons
    rw [dropTrailingCommas]
    split
    · next hcomma =>
      obtain rfl : c = ',' := of_decide_eq_true (Bool.and_eq_true_iff.1 hcomma).1
      exact lastMark_replace (x := [',']) h rfl (by decide) hcs []
    · exact lastMark_cons_congr hcs c

theorem keepsEnd_unmaskColons : KeepsEnd unmaskColons := by
  intro cs h
  induction cs using mask_induction with
  | nil => rfl
  | masked rest ih =>
    rw [unmaskColons_mask]
    exact lastMark_replace h rfl (by decide) (ih h.of_append) [':']
  | cons c cs hne ih =>
    rw [unmaskColons_cons hne]
    exact lastMark_cons_congr (ih h.of_cons) c

theorem KeepsEnd.closed {f : List Char → List Char} (h : KeepsEnd f) {cs : List Char}
    (hcs : Closed cs) : Closed (f cs) := by
  unfold Closed
  rw [h cs hcs]
  exact hcs

theorem KeepsEnd.comp {f g : List Char → List Char} (hg : KeepsEnd g) (hf : KeepsEnd f) :
    KeepsEnd fun cs => g (f cs) :=
  fun cs hcs => (hg _ (hf.closed hcs)).trans (hf cs hcs)

theorem keepsEnd_tidy : KeepsEnd tidy :=
  keepsEnd_unmaskColons.comp (keepsEnd_dropTrailingCommas.comp (keepsEnd_dropUndefined.comp
    (keepsEnd_quoteNames.comp (keepsEnd_maskColons.comp keepsEnd_doubleQuotes))))

end Relaxed

/-! ## Reading from a bracket or a brace -/

theorem lastMark_of_space {b : List Char} (h : Space b) : lastMark b = none := by
  have hfilter : b.filter (fun c => !isSpace c) = [] :=
    List.filter_eq_nil_iff.2 fun c hc => by simp [h c hc]
  rw [lastMark, hfilter]
  rfl

/-- What begins with a brace is an object, and so it does not end in a bracket. -/
theorem parse?_brace_eq_none {cs : List Char} (h : lastMark ('\x7b' :: cs) = some ']') :
    parse? ('\x7b' :: cs) = none := by
  cases hparse : parse? ('\x7b' :: cs) with
  | none => rfl
  | some v =>
    obtain ⟨t, s, rfl, ht, hs⟩ := exists_bare_of_parse? (b := []) (by simp) (by decide) hparse
    obtain ⟨m, hm⟩ := ht.enclosed ht.brackets?_eq
    have hlast : lastMark ('\x7b' :: (t ++ s)) = some '\x7d' := by
      rw [← List.cons_append, hm, lastMark_append, lastMark_of_space hs, Option.none_or,
        ← List.cons_append, lastMark_concat rfl]
    rw [h] at hlast
    cases hlast

/-- **What begins with a brace and ends in a bracket is not read**, as it stands or relaxed. -/
theorem parseRelaxed?_brace_eq_none {cs : List Char} (h : lastMark ('\x7b' :: cs) = some ']') :
    parseRelaxed? ('\x7b' :: cs) = none := by
  have htidy : lastMark (Relaxed.tidy ('\x7b' :: cs)) = some ']' :=
    (Relaxed.keepsEnd_tidy _ (.inr h)).trans h
  unfold parseRelaxed?
  split
  · rw [parse?_brace_eq_none h, Option.none_or]
    rw [Relaxed.tidy_cons ⟨by decide, by decide⟩] at htidy ⊢
    exact parse?_brace_eq_none htidy
  · rfl

theorem brackets?_cases {v : Json} {o c : Char} (h : brackets? v = some (o, c)) :
    (o = '[' ∧ c = ']') ∨ (o = '\x7b' ∧ c = '\x7d') := by
  cases v with
  | arr items =>
    cases h
    exact .inl ⟨rfl, rfl⟩
  | obj members =>
    cases h
    exact .inr ⟨rfl, rfl⟩
  | _ => cases h

/-- An array or an object is read where it begins. -/
theorem parseRelaxed?_of_spells {o c : Char} {cs : List Char} {v : Json}
    (hv : brackets? v = some (o, c)) (h : Spells maxNesting cs v) : parseRelaxed? cs = some v := by
  obtain ⟨a, t, b, rfl, ha, ht, hb⟩ := spells_iff.1 h
  obtain ⟨m, rfl⟩ := ht.enclosed hv
  have hopens : Relaxed.opensStructure (a ++ (o :: (m ++ [c]) ++ b)) = true :=
    Relaxed.opensStructure_iff.2 ⟨a, o, m ++ [c] ++ b, fun d hd => isBlank_of_isSpace (ha d hd),
      (brackets?_cases hv).imp And.left And.left, rfl⟩
  unfold parseRelaxed?
  rw [if_pos hopens, parse?_eq_some_iff.2 h, Option.some_or]

/-! ## Lines -/

/-- The lines of a text, each with the carriage return at its end or without it. -/
def AreLines (text : List Char) (lines : List Line) : Prop :=
  List.Forall₂ (fun piece line => line = piece ∨ line = Text.dropReturn piece)
    (Text.pieces '\n' text) lines

theorem thinned_dropReturn (piece : List Char) : Thinned piece (Text.dropReturn piece) := by
  unfold Text.dropReturn
  split
  · next h =>
    obtain ⟨init, rfl⟩ := List.getLast?_eq_some_iff.1 h
    rw [List.dropLast_concat]
    conv => rhs; rw [← List.append_nil init]
    exact (Thinned.refl init).append (.drop .nil)
  · exact .refl piece

theorem thinned_joinLines {pieces lines : List Line}
    (h : List.Forall₂ (fun piece line => line = piece ∨ line = Text.dropReturn piece)
      pieces lines) : Thinned (joinLines pieces) (joinLines lines) := by
  have hline : ∀ {piece line : Line}, line = piece ∨ line = Text.dropReturn piece →
      Thinned piece line := by
    rintro piece _ (rfl | rfl)
    · exact .refl _
    · exact thinned_dropReturn piece
  induction h with
  | nil => exact .nil
  | @cons piece line pieces lines hl hls ih =>
    cases hls with
    | nil =>
      rw [joinLines, joinLines, List.intercalate_singleton, List.intercalate_singleton]
      exact hline hl
    | cons _ _ =>
      rw [joinLines, joinLines, List.intercalate_cons_cons, List.intercalate_cons_cons]
      exact ((hline hl).append (.refl _)).append ih

theorem Json.Spells.of_areLines {text : List Char} {l : Line} {ls : List Line} {v : Json}
    (h : Spells maxNesting text v) (hlines : AreLines text (l :: ls)) :
    Spells maxNesting (l ++ '\n' :: joinLines ls) v := by
  have hthin := thinned_joinLines hlines
  rw [joinLines, Text.intercalate_pieces] at hthin
  have hjoin := h.thinned hthin
  cases ls with
  | nil =>
    rw [joinLines, List.intercalate_singleton] at hjoin
    have hfeed : Space ['\n'] := List.forall_mem_singleton.2 rfl
    exact hjoin.append_space hfeed
  | cons l' ls =>
    rw [joinLines, List.intercalate_cons_cons, List.append_assoc] at hjoin
    exact hjoin

/-! ## Finding the data -/

section Finding

variable {c : Char} {p cs : List Char}

theorem fromFirst?_append (h : c ∉ p) (cs : List Char) :
    fromFirst? c (p ++ cs) = fromFirst? c cs := by
  have hp : ∀ d ∈ p, (d != c) = true := fun d hd => bne_iff_ne.2 fun heq => h (heq ▸ hd)
  rw [fromFirst?, fromFirst?, List.dropWhile_append_of_pos hp]

theorem fromFirst?_of_not_mem (h : c ∉ cs) : fromFirst? c cs = none := by
  rw [← List.append_nil cs, fromFirst?_append h]
  rfl

theorem fromFirst?_of_mem (h : c ∉ p) (cs : List Char) :
    fromFirst? c (p ++ c :: cs) = some (c :: cs) := by
  rw [fromFirst?_append h, fromFirst?, List.dropWhile_cons_of_neg (by simp)]

end Finding

theorem not_mem_of_space {o c : Char} {v : Json} (hv : brackets? v = some (o, c)) {a : List Char}
    (ha : Space a) : o ∉ a := by
  intro hmem
  have ho := ha o hmem
  rcases brackets?_cases hv with ⟨rfl, -⟩ | ⟨rfl, -⟩ <;> cases ho

/-- A value in a first line and the text behind it begins in that line, or it is behind it. -/
theorem begins_or_follows {o c : Char} {v : Json} (hv : brackets? v = some (o, c)) {l : Line}
    {rest : List Char} (h : Spells maxNesting (l ++ '\n' :: rest) v) :
    (∃ a l', l = a ++ o :: l' ∧ Space a ∧ Spells maxNesting (o :: l' ++ '\n' :: rest) v) ∨
      (Space l ∧ Spells maxNesting rest v) := by
  obtain ⟨a, t, b, heq, ha, ht, hb⟩ := spells_iff.1 h
  obtain ⟨m, rfl⟩ := ht.enclosed hv
  rcases List.append_eq_append_iff.1 heq with ⟨a', rfl, hrest⟩ | ⟨l', rfl, hrest⟩
  · right
    obtain ⟨hl, ha'⟩ := List.forall_mem_append.1 ha
    refine ⟨hl, ?_⟩
    cases a' with
    | nil =>
      obtain ⟨rfl, -⟩ := List.cons.inj hrest
      rcases brackets?_cases hv with ⟨ho, -⟩ | ⟨ho, -⟩ <;> cases ho
    | cons d a' =>
      obtain ⟨rfl, rfl⟩ := List.cons.inj hrest
      exact .intro (List.forall_mem_cons.1 ha').2 ht hb
  · cases l' with
    | nil =>
      obtain ⟨rfl, -⟩ := List.cons.inj hrest
      rcases brackets?_cases hv with ⟨ho, -⟩ | ⟨ho, -⟩ <;> cases ho
    | cons d l' =>
      obtain ⟨rfl, -⟩ := List.cons.inj hrest
      refine .inl ⟨a, l', rfl, ha, ?_⟩
      rw [← hrest]
      exact .intro .nil ht hb

theorem Json.Spells.lastMark {o c : Char} {cs : List Char} {v : Json}
    (hv : brackets? v = some (o, c)) (h : Spells maxNesting cs v) : lastMark cs = some c := by
  obtain ⟨a, t, b, rfl, ha, ht, hb⟩ := spells_iff.1 h
  obtain ⟨m, rfl⟩ := ht.enclosed hv
  have hc : isSpace c = false := by
    rcases brackets?_cases hv with ⟨-, rfl⟩ | ⟨-, rfl⟩ <;> rfl
  rw [lastMark_append, lastMark_append, lastMark_of_space hb, Option.none_or, ← List.cons_append,
    lastMark_concat hc, Option.some_or]

theorem findPayload_of_start {body start : List Char} (ls : List Line)
    (h : (fromFirst? '\x7b' body).or (fromFirst? '[' body) = some start) :
    findPayload body ls =
      (parseRelaxed? (start ++ '\n' :: joinLines ls)).or (parseRelaxed? (joinLines ls)) := by
  rw [findPayload, h, Option.bind_some]

/-- From a brace on, an array has no data. -/
theorem findPayload_of_array {v : Json} (hv : brackets? v = some ('[', ']')) {p l : Line}
    (hp : '\x7b' ∉ p) (hl : '\x7b' ∈ l) {ls : List Line}
    (h : Spells maxNesting (l ++ '\n' :: joinLines ls) v) :
    findPayload (p ++ l) ls = parseRelaxed? (joinLines ls) := by
  obtain ⟨x, y, rfl, hx⟩ := List.eq_append_cons_of_mem hl
  have hstart : fromFirst? '\x7b' (p ++ (x ++ '\x7b' :: y)) = some ('\x7b' :: y) := by
    rw [fromFirst?_append hp, fromFirst?_of_mem hx]
  -- the text from the brace on ends as the array does
  have hlast := h.lastMark hv
  rw [List.append_assoc, List.cons_append] at hlast
  have hclosed : Closed ('\x7b' :: (y ++ '\n' :: joinLines ls)) := .of_append (.inr hlast)
  have hmark : lastMark ('\x7b' :: (y ++ '\n' :: joinLines ls)) = some ']' := by
    refine hclosed.resolve_left fun hnone => ?_
    rw [lastMark_cons, Option.or_eq_none_iff] at hnone
    cases hnone.2
  have hbody : (fromFirst? '\x7b' (p ++ (x ++ '\x7b' :: y))).or
      (fromFirst? '[' (p ++ (x ++ '\x7b' :: y))) = some ('\x7b' :: y) := by
    rw [hstart, Option.some_or]
  rw [findPayload_of_start ls hbody,
    List.cons_append, parseRelaxed?_brace_eq_none hmark, Option.none_or]

/-- **Which structured data is found.** An array or an object that begins in the body, behind a text
without brackets and braces, or in the lines that follow, is found exactly, with one exception: the
data of an array with a brace in its first line is looked for from that brace on, where there is
none, and then in the following lines alone. -/
theorem findPayload_lines {text : List Char} {v : Json} {p : List Char} {l : Line}
    {ls : List Line} (hparse : parse? text = some v) (hv : (brackets? v).isSome)
    (hbrace : '\x7b' ∉ p) (hbracket : '[' ∉ p) (hlines : AreLines text (l :: ls)) :
    findPayload (p ++ l) ls =
      if brackets? v = some ('[', ']') ∧ '\x7b' ∈ l then parseRelaxed? (joinLines ls)
      else some v := by
  obtain ⟨⟨o, c⟩, hv⟩ := Option.isSome_iff_exists.1 hv
  have hspells := (parse?_eq_some_iff.1 hparse).of_areLines hlines
  rcases begins_or_follows hv hspells with ⟨a, l', hl, ha, hfirst⟩ | ⟨hl, hrest⟩
  · have hbody : ∀ start, (fromFirst? '\x7b' (p ++ l)).or (fromFirst? '[' (p ++ l)) = some start →
        start = o :: l' → findPayload (p ++ l) ls = some v := by
      rintro _ hstart rfl
      rw [findPayload_of_start ls hstart, parseRelaxed?_of_spells hv hfirst, Option.some_or]
    have hopen : ∀ {d : Char}, d = o → d ∉ p → fromFirst? d (p ++ l) = some (o :: l') := by
      rintro d rfl hd
      rw [hl, fromFirst?_append hd, fromFirst?_of_mem (not_mem_of_space hv ha)]
    rcases brackets?_cases hv with ⟨rfl, rfl⟩ | ⟨rfl, rfl⟩
    · by_cases hmem : '\x7b' ∈ l
      · rw [if_pos ⟨hv, hmem⟩]
        exact findPayload_of_array hv hbrace hmem hspells
      · rw [if_neg fun h => hmem h.2]
        have hnone : fromFirst? '\x7b' (p ++ l) = none := by
          rw [fromFirst?_append hbrace, fromFirst?_of_not_mem hmem]
        refine hbody _ ?_ rfl
        rw [hnone, Option.none_or, hopen rfl hbracket]
    · have hobject : brackets? v ≠ some ('[', ']') := by
        rw [hv]
        decide
      rw [if_neg fun h => hobject h.1]
      refine hbody _ ?_ rfl
      rw [hopen rfl hbrace, Option.some_or]
  · have hnot : ∀ {d : Char}, isSpace d = false → d ∉ p → fromFirst? d (p ++ l) = none := by
      intro d hd hp
      refine fromFirst?_of_not_mem fun hmem => ?_
      rcases List.mem_append.1 hmem with hmem | hmem
      · exact hp hmem
      · rw [hl d hmem] at hd
        cases hd
    have hmem : '\x7b' ∉ l := by
      intro hmem
      cases hl _ hmem
    rw [if_neg fun h => hmem h.2, findPayload, hnot rfl hbrace, hnot rfl hbracket]
    exact parseRelaxed?_of_spells hv hrest

/-- An object over two lines, the second with its array. -/
theorem findPayload_lines_object :
    findPayload ['a', ' ', '\x7b', '"', 'b', '"', ':'] [['[', '1', ']', '\x7d']] =
      some (.obj [("b", .arr [.int 1])]) := by
  have hparse : parse? ['\x7b', '"', 'b', '"', ':', '\r', '\n', '[', '1', ']', '\x7d'] =
      some (.obj [("b", .arr [.int 1])]) := rfl
  have hlines : AreLines ['\x7b', '"', 'b', '"', ':', '\r', '\n', '[', '1', ']', '\x7d']
      [['\x7b', '"', 'b', '"', ':'], ['[', '1', ']', '\x7d']] :=
    .cons (.inr rfl) (.cons (.inl rfl) .nil)
  exact findPayload_lines (p := ['a', ' ']) hparse rfl (by decide) (by decide) hlines

/-- Not all data is found: an array of objects in one line is not. -/
theorem not_findPayload_array :
    ¬∀ (text : List Char) (v : Json) (p l : Line) (ls : List Line), parse? text = some v →
      (brackets? v).isSome → '\x7b' ∉ p → '[' ∉ p → AreLines text (l :: ls) →
        findPayload (p ++ l) ls = some v := by
  intro h
  have hparse : parse? ['[', '\x7b', '"', 'a', '"', ':', '1', '\x7d', ']'] =
      some (.arr [.obj [("a", .int 1)]]) := rfl
  have hnone : (findPayload ['[', '\x7b', '"', 'a', '"', ':', '1', '\x7d', ']'] []).isNone =
      true := by
    decide +kernel
  have hlines : AreLines ['[', '\x7b', '"', 'a', '"', ':', '1', '\x7d', ']']
      [['[', '\x7b', '"', 'a', '"', ':', '1', '\x7d', ']']] :=
    .cons (.inl rfl) .nil
  have hsome := h _ _ [] _ [] hparse rfl List.not_mem_nil List.not_mem_nil hlines
  rw [List.nil_append] at hsome
  rw [hsome] at hnone
  cases hnone

end Logbook
